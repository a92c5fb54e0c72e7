import Fpd.Unix.Path
import Fpd.Unix.Overwriting
import Mathlib.Data.List.TakeWhile

namespace Fpd
namespace Providers

open Unix
open Unix.Path
open Overwriting

/-!
# Extracting providers from an archive

A release of the providers comes as a tarball, and the artifacts of a branch
come as a zip.  Each is gone through once, entry by entry, and an entry goes to
the directory for providers under the stem of its own name.

The tarball passes over what is not a `.wasm` file.  The zip takes every entry
for a provider, whatever its name says, so a text that lies next to a provider
and goes by the same stem ends up in the provider's place.
-/

/-- A regular file in an archive. -/
structure Entry where
  path : OsStr
  bytes : List UInt8
  deriving DecidableEq, Repr

abbrev Files := OsStr -> Option (List UInt8)

inductive Error
  | other (message : String)
  deriving DecidableEq, Repr

/-- The first argument is where providers go unless the caller says otherwise. -/
def getProviderDestination (providersWasmDir : OsStr) (wasmDir : Option OsStr)
    (providerName : OsStr) : OsStr :=
  push (wasmDir.getD providersWasmDir) (providerName ++ ascii ".wasm")

/-- One pass over the entries.  The first one without a stem ends it, and what
was extracted up to there stays. -/
def extract (destination : OsStr -> OsStr) (skips : OsStr -> Bool) (message : String)
    (files : Files) : List Entry -> Files × Except Error Unit
  | [] => (files, .ok ())
  | entry :: entries =>
      if skips entry.path then extract destination skips message files entries
      else
        match fileStem entry.path with
        | none => (files, .error (.other message))
        | some provider =>
            extract destination skips message
              (Function.update files (destination provider) (some entry.bytes)) entries

/-- The tarball may hold other things than providers. -/
def tarballSkips (path : OsStr) : Bool :=
  match extension path with
  | some ext => ext != ascii "wasm"
  | none => true

/-- Whatever is in the zip is taken for a provider. -/
def zipSkips (_ : OsStr) : Bool := false

def downloadProvidersTarball (providersWasmDir : OsStr) (wasmDir : Option OsStr) :
    Files -> List Entry -> Files × Except Error Unit :=
  extract (getProviderDestination providersWasmDir wasmDir) tarballSkips
    "Cannot determine provider name from archived artifact"

def downloadProvidersZip (providersWasmDir : OsStr) (wasmDir : Option OsStr) :
    Files -> List Entry -> Files × Except Error Unit :=
  extract (getProviderDestination providersWasmDir wasmDir) zipSkips
    "Cannot determine provider name from zipped artifact"

/-! ## A pass is a series of writes -/

/-- What an entry with a stem writes, and where. -/
def written (destination : OsStr -> OsStr) (entry : Entry) : Option (OsStr × List UInt8) :=
  (fileStem entry.path).map fun provider => (destination provider, entry.bytes)

variable {destination : OsStr -> OsStr} {skips : OsStr -> Bool} {message : String}
variable {files : Files} {entries earlier later : List Entry} {provider : OsStr}

/-- The entries that a pass writes: those that are not skipped, up to the first
one without a stem. -/
def writtenEntries (skips : OsStr -> Bool) (entries : List Entry) : List Entry :=
  (entries.filter fun entry => !skips entry.path).takeWhile fun entry =>
    (fileStem entry.path).isSome

theorem extract_files :
    (extract destination skips message files entries).1 =
      replay (written destination) files (writtenEntries skips entries) := by
  induction entries generalizing files with
  | nil => rfl
  | cons entry rest inductionHypothesis =>
      rw [extract, writtenEntries]
      by_cases skipped : skips entry.path = true
      · rw [if_pos skipped, List.filter_cons_of_neg (by simp [skipped])]
        exact inductionHypothesis
      · rw [if_neg skipped, List.filter_cons_of_pos (by simp [skipped])]
        cases hasStem : fileStem entry.path with
        | none =>
            rw [List.takeWhile_cons_of_neg (by simp [hasStem])]
            rfl
        | some stem =>
            have writes : written destination entry = some (destination stem, entry.bytes) := by
              simp [written, hasStem]
            rw [List.takeWhile_cons_of_pos (by simp [hasStem])]
            refine inductionHypothesis.trans ?_
            rw [replay, replay, List.foldl_cons, put_of_eq_some writes]
            rfl

theorem extract_ok_iff :
    (extract destination skips message files entries).2 = .ok () ↔
      forall entry, entry ∈ entries -> skips entry.path = false ->
        (fileStem entry.path).isSome := by
  constructor
  · intro succeeds
    induction entries generalizing files with
    | nil => exact fun _ inside => absurd inside List.not_mem_nil
    | cons entry rest inductionHypothesis =>
        rw [extract] at succeeds
        intro other inside taken
        rw [List.mem_cons] at inside
        split at succeeds
        · next skipped =>
            rcases inside with rfl | inside
            · rw [skipped] at taken
              cases taken
            · exact inductionHypothesis succeeds other inside taken
        · split at succeeds
          · cases succeeds
          · next stem hasStem =>
              rcases inside with rfl | inside
              · rw [hasStem]
                rfl
              · exact inductionHypothesis succeeds other inside taken
  · intro named
    induction entries generalizing files with
    | nil => rfl
    | cons entry rest inductionHypothesis =>
        have restNamed := fun other inside => named other (List.mem_cons_of_mem entry inside)
        rw [extract]
        split
        · exact inductionHypothesis restNamed
        · next taken =>
            have hasStem := named entry List.mem_cons_self (Bool.eq_false_iff.mpr taken)
            split
            · next none =>
                rw [none] at hasStem
                cases hasStem
            · exact inductionHypothesis restNamed

theorem writtenEntries_of_named
    (named : forall entry, entry ∈ entries -> skips entry.path = false ->
      (fileStem entry.path).isSome) :
    writtenEntries skips entries = entries.filter fun entry => !skips entry.path := by
  rw [writtenEntries, List.takeWhile_eq_self_iff]
  intro entry inside
  rw [List.mem_filter, Bool.not_eq_true'] at inside
  exact named entry inside.1 inside.2

theorem mem_of_mem_writtenEntries {entry : Entry}
    (written : entry ∈ writtenEntries skips entries) : entry ∈ entries :=
  List.mem_of_mem_filter ((List.takeWhile_prefix _).mem written)

theorem extract_eq_replay
    (named : forall entry, entry ∈ entries -> skips entry.path = false ->
      (fileStem entry.path).isSome) :
    extract destination skips message files entries =
      (replay (written destination) files (entries.filter fun entry => !skips entry.path),
        .ok ()) :=
  Prod.ext (by rw [extract_files, writtenEntries_of_named named]) (extract_ok_iff.mpr named)

/-! ## Where a provider goes -/

theorem separator_not_mem_wasm : separator ∉ ascii ".wasm" := by decide

theorem getProviderDestination_injective {providersWasmDir : OsStr} {wasmDir : Option OsStr}
    {other : OsStr} (relative : separator ∉ provider) (otherRelative : separator ∉ other)
    (same : getProviderDestination providersWasmDir wasmDir provider =
      getProviderDestination providersWasmDir wasmDir other) :
    provider = other := by
  have noSeparator : forall name : OsStr, separator ∉ name ->
      separator ∉ name ++ ascii ".wasm" := by
    intro name relative inside
    rcases List.mem_append.mp inside with inName | inExtension
    · exact relative inName
    · exact separator_not_mem_wasm inExtension
  exact List.append_cancel_right
    (push_injective (noSeparator provider relative) (noSeparator other otherRelative) same)

/-- An entry is meant for a provider if its name ends in `.wasm`. -/
def isWasm (path : OsStr) : Bool :=
  decide (extension path = some (ascii "wasm"))

theorem fileStem_isSome_of_isWasm {path : OsStr} (wasm : isWasm path = true) :
    (fileStem path).isSome := by
  refine fileStem_isSome_of_extension ?_
  rw [of_decide_eq_true wasm]
  rfl

/-- The entries from which a provider of this name is installed. -/
def providerEntries (provider : OsStr) (entries : List Entry) : List Entry :=
  entries.filter fun entry => isWasm entry.path && decide (fileStem entry.path = some provider)

section Destination

variable {providersWasmDir : OsStr} {wasmDir : Option OsStr}

theorem written_eq_iff {entry : Entry} {bytes : List UInt8} (named : separator ∉ provider) :
    written (getProviderDestination providersWasmDir wasmDir) entry =
        some (getProviderDestination providersWasmDir wasmDir provider, bytes) ↔
      fileStem entry.path = some provider ∧ entry.bytes = bytes := by
  rw [written, Option.map_eq_some_iff]
  constructor
  · rintro ⟨stem, hasStem, same⟩
    rw [Prod.mk.injEq] at same
    have sameStem : stem = provider :=
      getProviderDestination_injective (separator_not_mem_of_fileStem hasStem) named same.1
    exact ⟨by rw [hasStem, sameStem], same.2⟩
  · rintro ⟨hasStem, sameBytes⟩
    exact ⟨provider, hasStem, by rw [sameBytes]⟩

theorem unwritten_iff (named : separator ∉ provider) :
    Unwritten (written (getProviderDestination providersWasmDir wasmDir))
        (getProviderDestination providersWasmDir wasmDir provider) entries ↔
      forall entry, entry ∈ entries -> fileStem entry.path ≠ some provider := by
  constructor
  · intro unwritten entry inside hasStem
    exact unwritten entry inside entry.bytes ((written_eq_iff named).mpr ⟨hasStem, rfl⟩)
  · intro others entry inside bytes same
    exact others entry inside ((written_eq_iff named).mp same).1

/-- Once the `.wasm` entries are written, a provider's file is the last of its own. -/
theorem replay_wasm (named : separator ∉ provider) :
    replay (written (getProviderDestination providersWasmDir wasmDir)) files
        (entries.filter fun entry => isWasm entry.path)
        (getProviderDestination providersWasmDir wasmDir provider) =
      ((providerEntries provider entries).getLast?.map Entry.bytes).or
        (files (getProviderDestination providersWasmDir wasmDir provider)) := by
  have chosen : (entries.filter fun entry => isWasm entry.path).filter
      (fun entry => decide (fileStem entry.path = some provider)) =
      providerEntries provider entries := by
    rw [List.filter_filter, providerEntries]
    exact List.filter_congr fun entry _ => Bool.and_comm _ _
  rw [← chosen]
  refine replay_eq_getLast? _ _ (fun entry _ => ?_) (fun entry bytes same => ?_)
  · rw [written_eq_iff named, decide_eq_true_iff]
    exact ⟨fun hasStem => ⟨hasStem, rfl⟩, fun same => same.1⟩
  · exact ((written_eq_iff named).mp same).2

end Destination

/-! ## The two formats -/

section Sources

variable {providersWasmDir : OsStr} {wasmDir : Option OsStr}

theorem extract_wasm (wasmOnly : forall path, skips path = !isWasm path) :
    extract destination skips message files entries =
      (replay (written destination) files (entries.filter fun entry => isWasm entry.path),
        .ok ()) := by
  rw [extract_eq_replay]
  · simp only [wasmOnly, Bool.not_not]
  · intro entry _ taken
    rw [wasmOnly, Bool.not_eq_false'] at taken
    exact fileStem_isSome_of_isWasm taken

/-- The tarball skips what is not meant for a provider. -/
theorem tarballSkips_eq (path : OsStr) : tarballSkips path = !isWasm path := by
  unfold tarballSkips isWasm
  cases extension path with
  | none => simp
  | some ext => simp [bne, beq_eq_decide]

theorem downloadProvidersTarball_eq :
    downloadProvidersTarball providersWasmDir wasmDir files entries =
      (replay (written (getProviderDestination providersWasmDir wasmDir)) files
        (entries.filter fun entry => isWasm entry.path), .ok ()) := by
  exact extract_wasm tarballSkips_eq

theorem downloadProvidersZip_eq
    (named : forall entry, entry ∈ entries -> (fileStem entry.path).isSome) :
    downloadProvidersZip providersWasmDir wasmDir files entries =
      (replay (written (getProviderDestination providersWasmDir wasmDir)) files entries,
        .ok ()) := by
  have all : (entries.filter fun entry => !zipSkips entry.path) = entries :=
    List.filter_eq_self.mpr fun _ _ => rfl
  rw [downloadProvidersZip, extract_eq_replay fun entry inside _ => named entry inside, all]

end Sources

/-! ## One archive, two formats -/

section Formats

variable (providersWasmDir : OsStr) (wasmDir : Option OsStr) (entries : List Entry) (files : Files)

/-- Every provider in the archive is in place, from the last of its entries, and
no other file has changed. -/
structure Installs (installed : Files) : Prop where
  placed : forall provider entry, (providerEntries provider entries).getLast? = some entry ->
    installed (getProviderDestination providersWasmDir wasmDir provider) = some entry.bytes
  untouched : forall path,
    (forall provider, path = getProviderDestination providersWasmDir wasmDir provider ->
      providerEntries provider entries = []) ->
    installed path = files path

/-- Both formats come to the same end and leave the same files, which are those
of the providers.  What is not a `.wasm` file makes no difference to either. -/
structure SameFiles : Prop where
  outcome : (downloadProvidersZip providersWasmDir wasmDir files entries).2 = .ok () ↔
    (downloadProvidersTarball providersWasmDir wasmDir files entries).2 = .ok ()
  sameFiles : (downloadProvidersZip providersWasmDir wasmDir files entries).1 =
    (downloadProvidersTarball providersWasmDir wasmDir files entries).1
  installs : Installs providersWasmDir wasmDir entries files
    (downloadProvidersTarball providersWasmDir wasmDir files entries).1
  noTraceZip :
    (downloadProvidersZip providersWasmDir wasmDir files entries).1 =
      (downloadProvidersZip providersWasmDir wasmDir files
        (entries.filter fun entry => isWasm entry.path)).1
  noTraceTarball :
    (downloadProvidersTarball providersWasmDir wasmDir files entries).1 =
      (downloadProvidersTarball providersWasmDir wasmDir files
        (entries.filter fun entry => isWasm entry.path)).1

/-- Both formats install the same providers, and neither ever writes an entry
that is not a `.wasm` file. -/
structure SameProviders : Prop extends SameFiles providersWasmDir wasmDir entries files where
  zipWrites : forall entry, entry ∈ writtenEntries zipSkips entries -> isWasm entry.path = true
  tarballWrites : forall entry, entry ∈ writtenEntries tarballSkips entries ->
    isWasm entry.path = true

/-- Each entry that is not a `.wasm` file has a stem, and a later entry has the
same one unless the bytes are those that the provider's file would have anyway. -/
def OthersHarmless : Prop :=
  forall earlier entry later, entries = earlier ++ entry :: later -> isWasm entry.path = false ->
    Exists fun provider => fileStem entry.path = some provider ∧
      ((Exists fun other => other ∈ later ∧ fileStem other.path = some provider) ∨
        ((providerEntries provider earlier).getLast?.map Entry.bytes).or
          (files (getProviderDestination providersWasmDir wasmDir provider)) = some entry.bytes)

variable {providersWasmDir wasmDir entries files}

theorem tarball_installs :
    Installs providersWasmDir wasmDir entries files
      (downloadProvidersTarball providersWasmDir wasmDir files entries).1 := by
  rw [downloadProvidersTarball_eq]
  constructor
  · intro provider entry last
    have inside : entry ∈ providerEntries provider entries := List.mem_of_getLast? last
    rw [providerEntries, List.mem_filter, Bool.and_eq_true, decide_eq_true_iff] at inside
    show replay _ _ _ _ = _
    rw [replay_wasm (separator_not_mem_of_fileStem inside.2.2), last]
    rfl
  · intro path unclaimed
    refine replay_of_unwritten fun entry inside bytes same => ?_
    rw [written, Option.map_eq_some_iff] at same
    obtain ⟨provider, hasStem, target⟩ := same
    rw [Prod.mk.injEq] at target
    have none_of : providerEntries provider entries = [] := unclaimed provider target.1.symm
    rw [List.mem_filter] at inside
    rw [providerEntries, List.filter_eq_nil_iff] at none_of
    exact none_of entry inside.1 (by simp [inside.2, hasStem])

/-- The condition says of stems what can be said of places. -/
theorem othersHarmless_iff_spared :
    OthersHarmless providersWasmDir wasmDir entries files ↔
      (forall entry, entry ∈ entries -> (fileStem entry.path).isSome) ∧
        Spared (written (getProviderDestination providersWasmDir wasmDir))
          (fun entry => isWasm entry.path) files entries := by
  constructor
  · intro harmless
    constructor
    · intro entry inside
      cases wasm : isWasm entry.path with
      | true => exact fileStem_isSome_of_isWasm wasm
      | false =>
          obtain ⟨earlier, later, split⟩ := List.append_of_mem inside
          obtain ⟨provider, hasStem, _⟩ := harmless earlier entry later split wasm
          rw [hasStem]
          rfl
    · intro earlier entry later place bytes split notWasm writes
      obtain ⟨provider, hasStem, spared⟩ := harmless earlier entry later split notWasm
      have named : separator ∉ provider := separator_not_mem_of_fileStem hasStem
      simp only [written, hasStem, Option.map_some, Option.some.injEq, Prod.mk.injEq] at writes
      obtain ⟨rfl, rfl⟩ := writes
      rw [replay_wasm named, unwritten_iff named]
      rcases spared with ⟨other, inside, sameStem⟩ | present
      · exact Or.inl fun unwritten => unwritten other inside sameStem
      · exact Or.inr present
  · rintro ⟨allNamed, spared⟩ earlier entry later split notWasm
    obtain ⟨provider, hasStem⟩ := Option.isSome_iff_exists.mp
      (allNamed entry (by simp [split]))
    have named : separator ∉ provider := separator_not_mem_of_fileStem hasStem
    refine ⟨provider, hasStem, ?_⟩
    rcases spared earlier entry later _ _ split notWasm
      ((written_eq_iff named).mpr ⟨hasStem, rfl⟩) with overwritten | present
    · rw [unwritten_iff named] at overwritten
      simp only [not_forall, not_not] at overwritten
      obtain ⟨other, inside, sameStem⟩ := overwritten
      exact Or.inl ⟨other, inside, sameStem⟩
    · rw [replay_wasm named] at present
      exact Or.inr present

/-- What is left in the end is the same exactly if the other entries are
harmless. -/
theorem sameFiles_iff_othersHarmless :
    SameFiles providersWasmDir wasmDir entries files ↔
      OthersHarmless providersWasmDir wasmDir entries files := by
  rw [othersHarmless_iff_spared]
  constructor
  · intro same
    have succeeds : (downloadProvidersZip providersWasmDir wasmDir files entries).2 = .ok () :=
      same.outcome.mpr (by rw [downloadProvidersTarball_eq])
    have allNamed : forall entry, entry ∈ entries -> (fileStem entry.path).isSome :=
      fun entry inside => extract_ok_iff.mp succeeds entry inside rfl
    have sameFiles := same.sameFiles
    rw [downloadProvidersZip_eq allNamed, downloadProvidersTarball_eq] at sameFiles
    exact ⟨allNamed, (replay_eq_replay_filter_iff _).mp sameFiles⟩
  · rintro ⟨allNamed, spared⟩
    have wasmNamed : forall entry, entry ∈ (entries.filter fun entry => isWasm entry.path) ->
        (fileStem entry.path).isSome :=
      fun entry inside => allNamed entry (List.mem_of_mem_filter inside)
    have sameFiles := (replay_eq_replay_filter_iff _).mpr spared
    constructor
    · rw [downloadProvidersZip_eq allNamed, downloadProvidersTarball_eq]
    · rw [downloadProvidersZip_eq allNamed, downloadProvidersTarball_eq]
      exact sameFiles
    · exact tarball_installs
    · rw [downloadProvidersZip_eq allNamed, downloadProvidersZip_eq wasmNamed]
      exact sameFiles
    · rw [downloadProvidersTarball_eq, downloadProvidersTarball_eq, List.filter_filter]
      simp only [Bool.and_self]

theorem othersHarmless_of_allWasm
    (allWasm : forall entry, entry ∈ entries -> isWasm entry.path = true) :
    OthersHarmless providersWasmDir wasmDir entries files := by
  rintro earlier entry later rfl notWasm
  rw [allWasm entry (List.mem_append_right _ List.mem_cons_self)] at notWasm
  cases notWasm

/-- What is not a `.wasm` file is written by the zip or makes it fail, even if
that cannot be told from the files in the end. -/
theorem sameProviders_iff_allWasm (providersWasmDir : OsStr) (wasmDir : Option OsStr)
    (entries : List Entry) (files : Files) :
    SameProviders providersWasmDir wasmDir entries files ↔
      forall entry, entry ∈ entries -> isWasm entry.path = true := by
  constructor
  · intro same entry inside
    have succeeds : (downloadProvidersZip providersWasmDir wasmDir files entries).2 = .ok () :=
      same.outcome.mpr (by rw [downloadProvidersTarball_eq])
    apply same.zipWrites
    rw [writtenEntries_of_named (extract_ok_iff.mp succeeds), List.mem_filter]
    exact ⟨inside, rfl⟩
  · intro allWasm
    refine ⟨sameFiles_iff_othersHarmless.mpr (othersHarmless_of_allWasm allWasm), ?_, ?_⟩
    · exact fun entry written => allWasm entry (mem_of_mem_writtenEntries written)
    · exact fun entry written => allWasm entry (mem_of_mem_writtenEntries written)

/-- A text that lies next to a provider takes the provider's place. -/
theorem zip_replaces_provider :
    ¬ SameProviders [] (some (ascii "wasm"))
      [⟨ascii "providers/prometheus.wasm", ascii "code"⟩,
        ⟨ascii "providers/prometheus.md", ascii "text"⟩] (fun _ => none) := by
  intro same
  exact absurd (congrFun same.sameFiles (ascii "wasm/prometheus.wasm")) (by decide)

end Formats

end Providers
end Fpd
