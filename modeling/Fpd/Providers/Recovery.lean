import Fpd.Async.Simulation
import Fpd.Providers.Pull

namespace Fpd
namespace Providers
namespace Pull

open Async
open Overwriting
open Unix
open Unix.Path

/-!
# Runs of pulls

Over a run the files are what the archives that have been opened make of them
one after another.  So nothing outside the directories for providers changes, a
pull that succeeds makes good for those before it that were broken off, and what
a provider's file holds comes from the last archive that had the provider.
-/

variable {format : Format} {directory provider path : OsStr} {files unpacked : Files}
  {turns : List Turn} {turn : Turn} {result : Except Stop Unit}

/-! ## Archives -/

/-- A file that unpacking changes is the file of a provider in the archive, and
one of the entries of that provider has left it. -/
theorem unpack_changed (format : Format) (directory path : OsStr) (files : Files)
    (turns : List Turn) :
    (unpack format (some directory) files turns).1 path = files path ∨
      Exists fun turn => turn ∈ turns ∧ format.skips turn.entry.path = false ∧
        Exists fun provider => fileStem turn.entry.path = some provider ∧
          path = getProviderDestination directory none provider ∧
            turn.Leaves ((unpack format (some directory) files turns).1 path) := by
  induction turns generalizing files with
  | nil => exact Or.inl rfl
  | cons turn turns inductionHypothesis =>
      have here {between : Files} {result : Except Stop Unit}
          (first : unpackEntry format (some directory) files turn = (between, result)) :
          between path = files path ∨ (format.skips turn.entry.path = false ∧
            Exists fun provider => fileStem turn.entry.path = some provider ∧
              path = getProviderDestination directory none provider ∧
                turn.Leaves (between path)) := by
        rcases unpackEntry_spec first with
          ⟨rfl, _⟩ | ⟨taken, provider, content, stem, leaves, rfl, _⟩
        · exact Or.inl rfl
        · by_cases same : path = getProviderDestination directory none provider
          · refine Or.inr ⟨taken, provider, stem, same, ?_⟩
            rw [same, Function.update_self]
            exact leaves
          · exact Or.inl (Function.update_of_ne same _ _)
      rw [unpack]
      cases first : unpackEntry format (some directory) files turn with
      | mk between result =>
          cases result with
          | error stop =>
              rcases here first with same | changed
              · exact Or.inl same
              · exact Or.inr ⟨turn, List.mem_cons_self, changed⟩
          | ok =>
              rcases inductionHypothesis between with same | ⟨other, member, changed⟩
              · dsimp only
                rw [same]
                rcases here first with same | changed
                · exact Or.inl same
                · exact Or.inr ⟨turn, List.mem_cons_self, changed⟩
              · exact Or.inr ⟨other, List.mem_cons_of_mem _ member, changed⟩

theorem extract_eq (format : Format) (directory : OsStr) :
    format.extract directory =
      extract (getProviderDestination directory none) format.skips format.message := by
  cases format <;> rfl

/-- An archive that has been unpacked to its end has been extracted. -/
theorem extract_of_unpack
    (done : unpack format (some directory) files turns = (unpacked, .ok ())) :
    format.extract directory files (turns.map Turn.entry) = (unpacked, .ok ()) := by
  rw [extract_eq]
  induction turns generalizing files with
  | nil =>
      cases done
      rfl
  | cons turn turns inductionHypothesis =>
      rw [unpack] at done
      cases first : unpackEntry format (some directory) files turn with
      | mk between result =>
          rw [first] at done
          cases result with
          | error stop => cases done
          | ok =>
              rw [← inductionHypothesis done, List.map_cons, extract]
              rcases unpackEntry_spec first with
                ⟨rfl, skipped⟩ | ⟨kept, provider, content, stem, _, rfl, whole⟩
              · rw [if_pos (skipped rfl)]
              · rw [if_neg (Bool.eq_false_iff.mp kept), stem, whole rfl]

/-- Whatever the files were, the entries for providers are written over them. -/
theorem extract_of_unpack_onto (others : Files)
    (done : unpack format (some directory) files turns = (unpacked, .ok ())) :
    format.extract directory others (turns.map Turn.entry) =
      (replay (written (getProviderDestination directory none)) others (taken format turns),
        .ok ()) := by
  have extracted := extract_of_unpack done
  rw [extract_eq] at extracted ⊢
  exact extract_eq_replay (extract_ok_iff.mp (congrArg Prod.snd extracted))

theorem replay_of_unpack
    (done : unpack format (some directory) files turns = (unpacked, .ok ())) :
    unpacked = replay (written (getProviderDestination directory none)) files
      (taken format turns) := by
  have extracted := extract_of_unpack done
  rw [extract_of_unpack_onto files done] at extracted
  exact (congrArg Prod.fst extracted).symm

/-! ## Runs -/

/-- The archive has an entry for the provider. -/
def Opened.Names (archive : Opened) (provider : OsStr) : Prop :=
  Exists fun entry => entry ∈ taken archive.format archive.turns ∧
    fileStem entry.path = some provider

/-- The file is one of a provider in the archive, and is as one of the entries
of that provider has left it. -/
def Opened.Left (archive : Opened) (path : OsStr) (content : Option (List UInt8)) : Prop :=
  Exists fun directory => Exists fun provider => Exists fun turn =>
    archive.directory = some directory ∧ turn ∈ archive.turns ∧
      archive.format.skips turn.entry.path = false ∧ fileStem turn.entry.path = some provider ∧
        path = getProviderDestination directory none provider ∧ turn.Leaves content

variable {before later : World} {directories : OsStr -> Bool}
  {allowed : World -> Surroundings × PullProvidersArgs -> Prop}

theorem left_of_reaches (reached : Reaches step allowed ⟨files, directories, []⟩ later)
    (path : OsStr) :
    later.files path = files path ∨
      Exists fun archive => archive ∈ later.opened ∧ archive.Left path (later.files path) := by
  apply reached.invariant
  · exact Or.inl rfl
  · intro before attempt after _ earlier _ taken
    have course := step_course taken
    generalize (pull attempt.1 attempt.2 before).2.2 = result at course
    cases course with
    | stopped files opened =>
        rw [files, opened]
        exact earlier
    | @unpacked _ directory format turns here isDir opened files =>
        rw [opened]
        have changed := unpack_changed format directory path before.files turns
        rw [files] at changed
        rcases changed with same | ⟨turn, member, kept, provider, stem, target, leaves⟩
        · dsimp only at same
          rw [same]
          rcases earlier with untouched | ⟨archive, inside, left⟩
          · exact Or.inl untouched
          · exact Or.inr ⟨archive, List.mem_append_left _ inside, left⟩
        · exact Or.inr ⟨_, List.mem_append_right _ List.mem_cons_self, directory, provider, turn,
            rfl, member, kept, stem, target, leaves⟩

/-- Pulls for the same directory agree on where it is. -/
theorem directory_of_reaches {projectDirs : Option ProjectDirs} {wasmDir : Option OsStr}
    (reached : Reaches step (fun _ attempt => attempt.1.projectDirs = projectDirs ∧
      attempt.2.wasmDir = wasmDir) ⟨files, directories, []⟩ later) :
    forall archive, archive ∈ later.opened -> Exists fun directory =>
      wasmDirectory projectDirs wasmDir = .ok directory ∧ archive.directory = some directory := by
  apply reached.invariant
  · exact nofun
  · intro before attempt after _ earlier same taken
    obtain ⟨rfl, rfl⟩ := same
    have course := step_course taken
    generalize (pull attempt.1 attempt.2 before).2.2 = result at course
    cases course with
    | stopped files opened =>
        rw [opened]
        exact earlier
    | unpacked here isDir opened files =>
        rw [opened]
        intro archive member
        rcases List.mem_append.mp member with inside | last
        · exact earlier archive inside
        · rw [List.mem_singleton] at last
          subst last
          exact ⟨_, here, rfl⟩

theorem directories_of_reaches (reached : Reaches step allowed before later)
    (present : before.directories path = true) : later.directories path = true := by
  apply reached.invariant
  · exact present
  · intro between attempt after _ earlier _ taken
    cases taken
    exact pull_directories attempt.1 attempt.2 between earlier

/-! ## Nothing else changes -/

/-- However many pulls there have been, and wherever they have been broken off: a
file that is not as it was lies in a directory for providers, and is as an entry
of that provider has left it. -/
theorem pulls_contained (files : Files) (directories : OsStr -> Bool) (later : World)
    (reached : Reaches step anyStep ⟨files, directories, []⟩ later) (path : OsStr)
    (changed : later.files path ≠ files path) :
    Exists fun archive => archive ∈ later.opened ∧ Exists fun directory =>
      Exists fun provider => archive.directory = some directory ∧
        LiesIn directory provider path ∧ Exists fun turn => turn ∈ archive.turns ∧
          fileStem turn.entry.path = some provider ∧ turn.Leaves (later.files path) := by
  rcases left_of_reaches reached path with same | ⟨archive, member, left⟩
  · exact absurd same changed
  · obtain ⟨directory, provider, turn, here, inside, _, stem, rfl, leaves⟩ := left
    have lies : LiesIn ((none : Option OsStr).getD directory) provider
        (getProviderDestination directory none provider) :=
      liesIn_getProviderDestination (separator_not_mem_of_fileStem stem)
    exact ⟨archive, member, directory, provider, here, lies, turn, inside, stem, leaves⟩

/-! ## Trying again -/

/-- A pull that succeeds has unpacked an archive to its end.  If the archive has
every provider of those that were opened before it, for the same directory, then
it does not matter how these have ended: the files are what the archive alone
makes of those that there were before all of them. -/
theorem pull_recovers (files : Files) (directories : OsStr -> Bool) (before : World)
    (attempts : Reaches step anyStep ⟨files, directories, []⟩ before) (around : Surroundings)
    (args : PullProvidersArgs) (done : (pull around args before).2.2 = .ok ()) :
    Exists fun last => Exists fun directory =>
      (pull around args before).2.1.opened = before.opened ++ [last] ∧
        last.directory = some directory ∧
          ((forall archive, archive ∈ before.opened -> archive.directory = some directory ∧
              forall provider, archive.Names provider -> last.Names provider) ->
            last.format.extract directory files (last.turns.map Turn.entry) =
              ((pull around args before).2.1.files, .ok ())) := by
  have course := pull_course around args before
  rw [done] at course
  cases course with
  | @unpacked _ directory format turns here isDir opened unpacked =>
      refine ⟨_, directory, opened, rfl, fun covered => ?_⟩
      rw [extract_of_unpack_onto files unpacked, replay_of_unpack unpacked]
      congr 1
      refine replay_congr fun place unwritten => ?_
      rcases left_of_reaches attempts place with same | ⟨archive, member, left⟩
      · exact same.symm
      · obtain ⟨other, provider, turn, there, inside, kept, stem, rfl, _⟩ := left
        obtain ⟨sameDirectory, names⟩ := covered archive member
        rw [there, Option.some.injEq] at sameDirectory
        subst sameDirectory
        have named : archive.Names provider := by
          refine ⟨turn.entry, ?_, stem⟩
          rw [taken, List.mem_filter]
          exact ⟨List.mem_map_of_mem inside, by simp [kept]⟩
        obtain ⟨entry, present, sameStem⟩ := names provider named
        have writes : written (getProviderDestination other none) entry =
            some (getProviderDestination other none provider, entry.bytes) := by
          rw [written, sameStem]
          rfl
        exact absurd writes (unwritten entry present _)

/-! ## Pulls that succeed -/

/-- All entries for providers, in the order they have been unpacked. -/
def unpackedEntries (opened : List Opened) : List Entry :=
  opened.flatMap fun archive => taken archive.format archive.turns

theorem replay_of_reaches
    (reached : Reaches step (fun world attempt => (pull attempt.1 attempt.2 world).2.2 = .ok ())
      ⟨files, directories, []⟩ later)
    (here : forall archive, archive ∈ later.opened -> archive.directory = some directory) :
    later.files = replay (written (getProviderDestination directory none)) files
      (unpackedEntries later.opened) := by
  induction reached with
  | refl => rfl
  | tail earlier done taken inductionHypothesis =>
      have course := step_course taken
      rw [done] at course
      cases course with
      | @unpacked _ other format turns _ _ opened unpacked =>
          rw [opened] at here ⊢
          have there := here _ (List.mem_append_right _ List.mem_cons_self)
          rw [Option.some.injEq] at there
          subst there
          rw [replay_of_unpack unpacked, inductionHypothesis fun archive member =>
            here archive (List.mem_append_left _ member), ← replay_append, unpackedEntries,
            unpackedEntries, List.flatMap_append, List.flatMap_singleton]

/-- A provider is the last of its entries that have been written. -/
theorem replay_provider {entries : List Entry} (named : separator ∉ provider) :
    replay (written (getProviderDestination directory none)) files entries
        (getProviderDestination directory none provider) =
      ((entries.filter fun entry =>
        decide (fileStem entry.path = some provider)).getLast?.map Entry.bytes).or
          (files (getProviderDestination directory none provider)) := by
  refine replay_eq_getLast? _ _ (fun entry _ => ?_) (fun entry bytes same => ?_)
  · rw [decide_eq_true_iff]
    exact ⟨fun stem => (written_eq_iff named).mpr ⟨stem, rfl⟩,
      fun writes => ((written_eq_iff named).mp writes).1⟩
  · exact ((written_eq_iff named).mp same).2

/-- After pulls that have all succeeded, for one directory, a provider is the one
of the last archive that had it, and otherwise what it was. -/
theorem provider_of_last_pull (files : Files) (directories : OsStr -> Bool) (later : World)
    (directory provider : OsStr)
    (reached : Reaches step (fun world attempt => (pull attempt.1 attempt.2 world).2.2 = .ok ())
      ⟨files, directories, []⟩ later)
    (here : forall archive, archive ∈ later.opened -> archive.directory = some directory)
    (named : separator ∉ provider) :
    later.files (getProviderDestination directory none provider) =
      (((unpackedEntries later.opened).filter fun entry =>
        decide (fileStem entry.path = some provider)).getLast?.map Entry.bytes).or
          (files (getProviderDestination directory none provider)) := by
  rw [replay_of_reaches reached here]
  exact replay_provider named

/-! ## Pulls of one provider -/

/-- The bytes of the archive with these entries. -/
def archive (turns : List Turn) : List UInt8 :=
  turns.flatMap fun turn => turn.entry.path ++ turn.entry.bytes

/-- The asset of the latest release is this archive, and everything goes well but
for its entries. -/
def serving (turns : List Turn) : Surroundings where
  projectDirs := none
  createDirAll _ := .ok ()
  buildOctocrab _ := .ok ()
  web :=
    { release := fun _ _ => .ok ⟨[⟨"providers.tgz", "https://github.com/providers.tgz"⟩]⟩
      artifacts := fun _ _ => .ok []
      get := fun _ _ => .ok ⟨200, ∅, .ok (archive turns)⟩ }
  unpack format bytes :=
    if format = .tarball ∧ bytes = archive turns then .ok turns
    else .error (.io "invalid gzip header")

def latest : PullProvidersArgs :=
  ⟨none, none, "latest", some (ascii "/w")⟩

def loki : Entry :=
  ⟨ascii "bin/loki.wasm", [1]⟩

/-- The entry is written only in part. -/
def tornWorld : World :=
  (pull (serving [⟨loki, some (.torn (some []) (.io "interrupted"))⟩]) latest
    ⟨fun _ => none, fun _ => false, []⟩).2.1

theorem tornWorld_reached :
    Reaches step anyStep ⟨fun _ => none, fun _ => false, []⟩ tornWorld := by
  have taken : step ⟨fun _ => none, fun _ => false, []⟩
      (serving [⟨loki, some (.torn (some []) (.io "interrupted"))⟩], latest) =
        some tornWorld := rfl
  exact .single trivial taken

theorem pulls_contained_torn :
    Exists fun archive => archive ∈ tornWorld.opened ∧ Exists fun directory =>
      Exists fun provider => archive.directory = some directory ∧
        LiesIn directory provider (ascii "/w/loki.wasm") ∧
          Exists fun turn => turn ∈ archive.turns ∧ fileStem turn.entry.path = some provider ∧
            turn.Leaves (tornWorld.files (ascii "/w/loki.wasm")) :=
  pulls_contained _ _ _ tornWorld_reached _ (by decide)

theorem pull_recovers_torn :
    (pull (serving [⟨loki, none⟩]) latest tornWorld).2.1.files (ascii "/w/loki.wasm") =
      some [1] := by
  obtain ⟨last, directory, opened, here, recovers⟩ :=
    pull_recovers _ _ _ tornWorld_reached (serving [⟨loki, none⟩]) latest rfl
  have both : [⟨some (ascii "/w"), .tarball,
      [⟨loki, some (.torn (some []) (.io "interrupted"))⟩]⟩,
      ⟨some (ascii "/w"), .tarball, [⟨loki, none⟩]⟩] = [_, last] := opened
  cases both
  cases here
  have extracted := recovers ?_
  · have there := congrFun (congrArg Prod.fst extracted) (ascii "/w/loki.wasm")
    exact there.symm.trans (by decide)
  · intro archive member
    have only : archive = ⟨some (ascii "/w"), .tarball,
        [⟨loki, some (.torn (some []) (.io "interrupted"))⟩]⟩ := List.mem_singleton.mp member
    subst only
    exact ⟨rfl, fun provider names => names⟩

/-- The later release has another provider. -/
def upgradedWorld : World :=
  (pull (serving [⟨⟨ascii "tempo.wasm", [2]⟩, none⟩]) latest
    (pull (serving [⟨loki, none⟩]) latest ⟨fun _ => none, fun _ => false, []⟩).2.1).2.1

theorem provider_of_last_pull_upgraded :
    upgradedWorld.files (getProviderDestination (ascii "/w") none (ascii "loki")) = some [1] := by
  have first : step ⟨fun _ => none, fun _ => false, []⟩ (serving [⟨loki, none⟩], latest) =
      some (pull (serving [⟨loki, none⟩]) latest ⟨fun _ => none, fun _ => false, []⟩).2.1 := rfl
  have second : step
      (pull (serving [⟨loki, none⟩]) latest ⟨fun _ => none, fun _ => false, []⟩).2.1
        (serving [⟨⟨ascii "tempo.wasm", [2]⟩, none⟩], latest) = some upgradedWorld := rfl
  refine (provider_of_last_pull (fun _ => none) (fun _ => false) upgradedWorld (ascii "/w")
    (ascii "loki") (.tail (.tail .refl rfl first) rfl second) ?_ (by decide)).trans (by decide)
  intro archive member
  have two : archive ∈ [(⟨some (ascii "/w"), .tarball, [⟨loki, none⟩]⟩ : Opened),
      ⟨some (ascii "/w"), .tarball, [⟨⟨ascii "tempo.wasm", [2]⟩, none⟩]⟩] := member
  rw [List.mem_cons, List.mem_singleton] at two
  rcases two with rfl | rfl <;> rfl

end Pull
end Providers
end Fpd
