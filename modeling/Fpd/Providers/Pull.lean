import Fpd.Async.Machine
import Fpd.Providers.Containment
import Fpd.Providers.Download

namespace Fpd
namespace Providers
namespace Pull

open Async
open Unix
open Unix.Path

/-!
# Pulling providers

A pull makes sure of the directory, finds an archive and downloads all of it,
and only then unpacks it, entry by entry.  Anything may go wrong on the way, also
with an entry, of which then a part may have been written.  What has been written
stays, so a pull that is broken off leaves what its entries have made of the
files so far.  A pull whose process is killed leaves nothing else behind.

Pulls may follow one another in any way, each with its own arguments and its own
web.  The archives that have been opened are kept in a record that no step reads.
-/

structure PullProvidersArgs where
  branch : Option String
  githubToken : Option String
  release : String
  wasmDir : Option OsStr
  deriving DecidableEq, Repr

inductive Format
  | zip
  | tarball
  deriving DecidableEq, Repr

namespace Format

/-- What an archive of the format may hold besides providers. -/
def skips : Format -> OsStr -> Bool
  | .zip => zipSkips
  | .tarball => tarballSkips

def message : Format -> String
  | .zip => "Cannot determine provider name from zipped artifact"
  | .tarball => "Cannot determine provider name from archived artifact"

end Format

/-- What goes wrong with an entry: it cannot be found in the archive, or its
bytes cannot be had and nothing is written, or a part of them is. -/
inductive Fault
  | unreadable (error : Error)
  | unread (error : Error)
  | torn (left : Option (List UInt8)) (error : Error)
  deriving DecidableEq, Repr

structure Turn where
  entry : Entry
  fault : Option Fault
  deriving DecidableEq, Repr

/-- An archive that has been opened, and the directory it is for. -/
structure Opened where
  directory : Option OsStr
  format : Format
  turns : List Turn
  deriving DecidableEq, Repr

/-- No step reads `opened`. -/
structure World where
  files : Files
  directories : OsStr -> Bool
  opened : List Opened

/-- Everything that a pull cannot decide by itself. -/
structure Surroundings where
  projectDirs : Option ProjectDirs
  createDirAll : OsStr -> Except Error Unit
  buildOctocrab : String -> Except String Unit
  web : Web
  unpack : Format -> List UInt8 -> Except Error (List Turn)

namespace World

def pathExists (world : World) (path : OsStr) : Bool :=
  world.directories path || (world.files path).isSome

def isDir (world : World) (path : OsStr) : Bool :=
  world.directories path

end World

/-! ## The directory -/

/-- The directory that is asked for, or else the one that the system has. -/
def wasmDirectory (projectDirs : Option ProjectDirs) (wasmDir : Option OsStr) :
    Except RuntimeError OsStr :=
  match wasmDir with
  | some wasmDir => .ok wasmDir
  | none => providersWasmDir projectDirs

/-- Directories are created together with those they lie in. -/
def ensureWasmDir (around : Surroundings) (wasmDir : Option OsStr) (world : World) :
    World × Except Stop Unit :=
  match wasmDirectory around.projectDirs wasmDir with
  | .error error => (world, .error (.failed (.runtime error)))
  | .ok wasmDir =>
      if world.pathExists wasmDir && !world.isDir wasmDir then
        (world, .error (.failed (.runtime (.providersDirUnavailable wasmDir))))
      else if !world.pathExists wasmDir then
        match around.createDirAll wasmDir with
        | .error error => (world, .error (.failed error))
        | .ok () =>
            ({ world with directories := fun path =>
              world.directories path || decide (components path <+: components wasmDir) }, .ok ())
      else (world, .ok ())

/-! ## Unpacking -/

/-- One entry.  Without a directory there is no destination, which makes the
task panic. -/
def unpackEntry (format : Format) (directory : Option OsStr) (files : Files) (turn : Turn) :
    Files × Except Stop Unit :=
  match turn.fault with
  | some (.unreadable error) => (files, .error (.failed error))
  | fault =>
      if format.skips turn.entry.path then (files, .ok ())
      else
        match fileStem turn.entry.path with
        | none => (files, .error (.failed (.other format.message)))
        | some provider =>
            match directory with
            | none => (files, .error .panicked)
            | some directory =>
                let place := getProviderDestination directory none provider
                match fault with
                | none => (Function.update files place (some turn.entry.bytes), .ok ())
                | some (.torn left error) =>
                    (Function.update files place left, .error (.failed error))
                | some (.unreadable error) => (files, .error (.failed error))
                | some (.unread error) => (files, .error (.failed error))

def unpack (format : Format) (directory : Option OsStr) (files : Files) :
    List Turn -> Files × Except Stop Unit
  | [] => (files, .ok ())
  | turn :: turns =>
      match unpackEntry format directory files turn with
      | (files, .error stop) => (files, .error stop)
      | (files, .ok ()) => unpack format directory files turns

/-- What is left of `download_providers_tarball` and `download_providers_zip`
once the bytes have arrived. -/
def openArchive (around : Surroundings) (format : Format) (wasmDir : Option OsStr) (world : World)
    (bytes : List UInt8) : World × Except Stop Unit :=
  let directory := (wasmDirectory around.projectDirs wasmDir).toOption
  match around.unpack format bytes with
  | .error error => (world, .error (.failed error))
  | .ok turns =>
      let unpacked := unpack format directory world.files turns
      ({ world with
        files := unpacked.1
        opened := world.opened ++ [⟨directory, format, turns⟩] }, unpacked.2)

/-! ## The pull -/

/-- The URL tells the format by its last letters. -/
def downloadProvidersArchive (around : Surroundings) (personalToken : Option String)
    (asked : List Request) (downloadUrl : String) (wasmDir : Option OsStr) (world : World) :
    List Request × World × Except Stop Unit :=
  let format :=
    if Text.endsWith "zip".toList downloadUrl.toList then Format.zip else Format.tarball
  match download around.web personalToken asked downloadUrl with
  | (asked, .error stop) => (asked, world, .error stop)
  | (asked, .ok bytes) => (asked, openArchive around format wasmDir world bytes)

def downloadProviderArtifactsFromBranch (around : Surroundings) (personalToken : Option String)
    (branch : String) (wasmDir : Option OsStr) (world : World) :
    List Request × World × Except Stop Unit :=
  match fetchLatestArtifact around.web personalToken [] branch with
  | (asked, .error stop) => (asked, world, .error stop)
  | (asked, .ok latestArtifact) =>
      if latestArtifact.expired then
        (asked, world, .error (.failed (.artifactsExpired branch)))
      else
        downloadProvidersArchive around personalToken asked latestArtifact.archiveDownloadUrl
          wasmDir world

def downloadProvidersRelease (around : Surroundings) (personalToken : Option String)
    (release : String) (wasmDir : Option OsStr) (world : World) :
    List Request × World × Except Stop Unit :=
  match fetchAsset around.web personalToken [] release with
  | (asked, .error stop) => (asked, world, .error stop)
  | (asked, .ok asset) =>
      downloadProvidersArchive around personalToken asked asset.browserDownloadUrl wasmDir world

/-- The requests that the pull makes, what it leaves, and how it ends. -/
def pull (around : Surroundings) (args : PullProvidersArgs) (world : World) :
    List Request × World × Except Stop Unit :=
  match ensureWasmDir around args.wasmDir world with
  | (world, .error stop) => ([], world, .error stop)
  | (world, .ok ()) =>
      match args.branch with
      | some branch =>
          match args.githubToken with
          | none => ([], world, .error (.failed .tokenRequired))
          | some githubToken =>
              match around.buildOctocrab githubToken with
              | .error err =>
                  ([], world, .error
                    (.failed (.other ("Could not create GitHub client: " ++ err))))
              | .ok () =>
                  downloadProviderArtifactsFromBranch around (some githubToken) branch
                    args.wasmDir world
      | none => downloadProvidersRelease around none args.release args.wasmDir world

/-- Pulls follow one another. -/
def step (world : World) (attempt : Surroundings × PullProvidersArgs) : Option World :=
  some (pull attempt.1 attempt.2 world).2.1

/-! ## Unpacking with and without faults -/

/-- An extraction without faults. -/
def Format.extract (format : Format) (directory : OsStr) :
    Files -> List Entry -> Files × Except Providers.Error Unit :=
  match format with
  | .zip => downloadProvidersZip directory none
  | .tarball => downloadProvidersTarball directory none

/-- The entries that are meant for providers. -/
def taken (format : Format) (turns : List Turn) : List Entry :=
  (turns.map Turn.entry).filter fun entry => !format.skips entry.path

/-- What has been made of the file when the turn is over. -/
def Turn.Leaves (turn : Turn) (content : Option (List UInt8)) : Prop :=
  match turn.fault with
  | none => content = some turn.entry.bytes
  | some (.torn left _) => content = left
  | _ => False

variable {format : Format} {directory provider path : OsStr} {files unpacked : Files}
  {turns : List Turn} {turn : Turn} {result : Except Stop Unit}

/-- An entry is passed over, or it leaves all as it was, or it touches the file
of its provider. -/
theorem unpackEntry_spec
    (ends : unpackEntry format (some directory) files turn = (unpacked, result)) :
    (unpacked = files ∧ (result = .ok () -> format.skips turn.entry.path = true)) ∨
      (format.skips turn.entry.path = false ∧ Exists fun provider => Exists fun content =>
        fileStem turn.entry.path = some provider ∧ turn.Leaves content ∧
          unpacked =
            Function.update files (getProviderDestination directory none provider) content ∧
          (result = .ok () -> content = some turn.entry.bytes)) := by
  unfold unpackEntry at ends
  split at ends
  · cases ends
    exact Or.inl ⟨rfl, nofun⟩
  · by_cases skipped : format.skips turn.entry.path = true
    · rw [if_pos skipped] at ends
      cases ends
      exact Or.inl ⟨rfl, fun _ => skipped⟩
    · rw [if_neg skipped] at ends
      cases stem : fileStem turn.entry.path with
      | none =>
          simp only [stem] at ends
          cases ends
          exact Or.inl ⟨rfl, nofun⟩
      | some provider =>
          simp only [stem] at ends
          have taken : format.skips turn.entry.path = false := Bool.eq_false_iff.mpr skipped
          cases faults : turn.fault with
          | none =>
              simp only [faults, Prod.mk.injEq] at ends
              refine Or.inr ⟨taken, provider, some turn.entry.bytes, rfl, ?_, ends.1.symm,
                fun _ => rfl⟩
              simp only [Turn.Leaves, faults]
          | some fault =>
              cases fault with
              | unreadable error => simp_all
              | unread error =>
                  simp only [faults, Prod.mk.injEq] at ends
                  refine Or.inl ⟨ends.1.symm, ?_⟩
                  rw [← ends.2]
                  exact nofun
              | torn left error =>
                  simp only [faults, Prod.mk.injEq] at ends
                  refine Or.inr ⟨taken, provider, left, rfl, ?_, ends.1.symm, ?_⟩
                  · simp only [Turn.Leaves, faults]
                  · rw [← ends.2]
                    exact nofun

/-! ## What a pull asks for -/

variable {around : Surroundings} {args : PullProvidersArgs} {world before after later : World}
  {wasmDir : Option OsStr}

theorem downloadProvidersArchive_adds (around : Surroundings) (personalToken : Option String)
    (asked : List Request) (downloadUrl : String) (wasmDir : Option OsStr) (world : World) :
    Adds personalToken 2 asked
      (downloadProvidersArchive around personalToken asked downloadUrl wasmDir world).1 := by
  have adds := download_adds around.web personalToken asked downloadUrl
  unfold downloadProvidersArchive
  cases downloaded : download around.web personalToken asked downloadUrl with
  | mk asked outcome =>
      rw [downloaded] at adds
      cases outcome <;> exact adds

theorem downloadProvidersRelease_adds (around : Surroundings) (personalToken : Option String)
    (release : String) (wasmDir : Option OsStr) (world : World) :
    Adds personalToken 3 []
      (downloadProvidersRelease around personalToken release wasmDir world).1 := by
  have first := fetchAsset_adds around.web personalToken [] release
  unfold downloadProvidersRelease
  cases fetched : fetchAsset around.web personalToken [] release with
  | mk asked outcome =>
      rw [fetched] at first
      cases outcome with
      | error stop => exact first.mono (Nat.le_add_right 1 2)
      | ok asset => exact first.trans (downloadProvidersArchive_adds ..)

theorem downloadProviderArtifactsFromBranch_adds (around : Surroundings)
    (personalToken : Option String) (branch : String) (wasmDir : Option OsStr) (world : World) :
    Adds personalToken 3 []
      (downloadProviderArtifactsFromBranch around personalToken branch wasmDir world).1 := by
  have first := fetchLatestArtifact_adds around.web personalToken [] branch
  unfold downloadProviderArtifactsFromBranch
  cases fetched : fetchLatestArtifact around.web personalToken [] branch with
  | mk asked outcome =>
      rw [fetched] at first
      cases outcome with
      | error stop => exact first.mono (Nat.le_add_right 1 2)
      | ok artifact =>
          dsimp only
          split
          · exact first.mono (Nat.le_add_right 1 2)
          · exact first.trans (downloadProvidersArchive_adds ..)

/-- The token of a pull, which only one from a branch has. -/
def PullProvidersArgs.token (args : PullProvidersArgs) : Option String :=
  args.branch.bind fun _ => args.githubToken

/-- A pull issues three requests at the most. -/
theorem pull_adds (around : Surroundings) (args : PullProvidersArgs) (world : World) :
    Adds args.token 3 [] (pull around args world).1 := by
  unfold pull PullProvidersArgs.token
  rcases ensureWasmDir around args.wasmDir world with ⟨world, _ | _⟩
  · exact .none _ _ _
  · cases args.branch with
    | none => exact downloadProvidersRelease_adds ..
    | some branch =>
        cases args.githubToken with
        | none => exact .none _ _ _
        | some githubToken =>
            dsimp only [Option.bind_some]
            cases around.buildOctocrab githubToken with
            | error => exact .none _ _ _
            | ok => exact downloadProviderArtifactsFromBranch_adds ..

/-- A pull issues three requests at the most, and none if it is from a branch and
there is no token.  The client of GitHub carries the token of the pull and none
else, and a text that starts with the address of GitHub's interface is not handed
to the other client. -/
theorem pull_requests (around : Surroundings) (args : PullProvidersArgs) (world : World) :
    (pull around args world).1.length ≤ 3 ∧
      (forall request, request ∈ (pull around args world).1 -> Proper args.token request) ∧
      (args.branch ≠ none -> args.githubToken = none -> (pull around args world).1 = []) := by
  obtain ⟨added, same, few, proper⟩ := pull_adds around args world
  rw [List.nil_append] at same
  refine ⟨same ▸ few, same ▸ proper, fun branch token => ?_⟩
  unfold pull
  rcases ensureWasmDir around args.wasmDir world with ⟨world, _ | _⟩
  · rfl
  · cases given : args.branch with
    | none => exact absurd given branch
    | some branch =>
        dsimp only
        rw [token]

/-! ## What a pull does to the files -/

/-- A pull ends without having touched a file, or it has opened an archive and
the files are as its entries have left them. -/
inductive Course (around : Surroundings) (args : PullProvidersArgs) (before after : World) :
    Except Stop Unit -> Prop
  | stopped {stop : Stop} (files : after.files = before.files)
      (opened : after.opened = before.opened) : Course around args before after (.error stop)
  | unpacked {result : Except Stop Unit} {directory : OsStr} {format : Format}
      {turns : List Turn}
      (here : wasmDirectory around.projectDirs args.wasmDir = .ok directory)
      (isDir : after.isDir directory = true)
      (opened : after.opened = before.opened ++ [⟨some directory, format, turns⟩])
      (files : unpack format (some directory) before.files turns = (after.files, result)) :
      Course around args before after result

/-- Once the directory is made sure of, there is a destination for providers. -/
theorem ensureWasmDir_spec
    (ensured : ensureWasmDir around wasmDir before = (after, result)) :
    after.files = before.files ∧ after.opened = before.opened ∧
      (result = .ok () -> Exists fun directory =>
        wasmDirectory around.projectDirs wasmDir = .ok directory ∧
          after.isDir directory = true) := by
  unfold ensureWasmDir at ensured
  cases here : wasmDirectory around.projectDirs wasmDir with
  | error error =>
      simp only [here] at ensured
      cases ensured
      exact ⟨rfl, rfl, nofun⟩
  | ok directory =>
      simp only [here] at ensured
      split at ensured
      · cases ensured
        exact ⟨rfl, rfl, nofun⟩
      · next available =>
          split at ensured
          · split at ensured
            · cases ensured
              exact ⟨rfl, rfl, nofun⟩
            · cases ensured
              refine ⟨rfl, rfl, fun _ => ⟨directory, rfl, ?_⟩⟩
              simp [World.isDir]
          · next present =>
              cases ensured
              rw [Bool.not_eq_true, Bool.not_eq_false'] at present
              refine ⟨rfl, rfl, fun _ => ⟨directory, rfl, ?_⟩⟩
              simpa [present] using available

theorem ensureWasmDir_directories (around : Surroundings) (wasmDir : Option OsStr) (world : World)
    {path : OsStr} (present : world.directories path = true) :
    (ensureWasmDir around wasmDir world).1.directories path = true := by
  unfold ensureWasmDir
  split
  · exact present
  · split
    · exact present
    · split
      · split
        · exact present
        · simp [present]
      · exact present

theorem downloadProvidersArchive_directories (personalToken : Option String)
    (asked : List Request) (downloadUrl : String) (wasmDir : Option OsStr) (world : World) :
    (downloadProvidersArchive around personalToken asked downloadUrl wasmDir
      world).2.1.directories = world.directories := by
  unfold downloadProvidersArchive openArchive
  dsimp only
  split
  · rfl
  · split <;> rfl

/-- No directory goes away. -/
theorem pull_directories (around : Surroundings) (args : PullProvidersArgs) (world : World)
    {path : OsStr} (present : world.directories path = true) :
    (pull around args world).2.1.directories path = true := by
  have first := ensureWasmDir_directories around args.wasmDir world present
  unfold pull
  cases ensured : ensureWasmDir around args.wasmDir world with
  | mk between result =>
      rw [ensured] at first
      cases result with
      | error stop => exact first
      | ok =>
          dsimp only
          split
          · split
            · exact first
            · split
              · exact first
              · unfold downloadProviderArtifactsFromBranch
                split
                · exact first
                · split
                  · exact first
                  · rw [downloadProvidersArchive_directories]
                    exact first
          · unfold downloadProvidersRelease
            split
            · exact first
            · rw [downloadProvidersArchive_directories]
              exact first

theorem downloadProvidersArchive_course {personalToken : Option String} {asked : List Request}
    {downloadUrl : String} (here : wasmDirectory around.projectDirs args.wasmDir = .ok directory)
    (isDir : world.isDir directory = true) :
    Course around args world
      (downloadProvidersArchive around personalToken asked downloadUrl args.wasmDir world).2.1
      (downloadProvidersArchive around personalToken asked downloadUrl args.wasmDir world).2.2 := by
  unfold downloadProvidersArchive
  dsimp only
  rcases download around.web personalToken asked downloadUrl with ⟨asked, stop | bytes⟩
  · exact .stopped rfl rfl
  · dsimp only
    unfold openArchive
    rw [here]
    dsimp only [Except.toOption]
    split
    · exact .stopped rfl rfl
    · exact .unpacked here isDir rfl rfl

theorem pull_course (around : Surroundings) (args : PullProvidersArgs) (world : World) :
    Course around args world (pull around args world).2.1 (pull around args world).2.2 := by
  unfold pull
  cases ensured : ensureWasmDir around args.wasmDir world with
  | mk between result =>
      have spec := ensureWasmDir_spec ensured
      cases result with
      | error stop => exact .stopped spec.1 spec.2.1
      | ok =>
          obtain ⟨sameFiles, sameOpened, available⟩ := spec
          obtain ⟨directory, here, isDir⟩ := available rfl
          have onwards {after : World} {result : Except Stop Unit}
              (course : Course around args between after result) :
              Course around args world after result := by
            cases course with
            | stopped files opened =>
                exact .stopped (files.trans sameFiles) (opened.trans sameOpened)
            | unpacked here isDir opened files =>
                exact .unpacked here isDir (sameOpened ▸ opened) (sameFiles ▸ files)
          apply onwards
          dsimp only
          split
          · split
            · exact .stopped rfl rfl
            · split
              · exact .stopped rfl rfl
              · unfold downloadProviderArtifactsFromBranch
                split
                · exact .stopped rfl rfl
                · split
                  · exact .stopped rfl rfl
                  · exact downloadProvidersArchive_course here isDir
          · unfold downloadProvidersRelease
            split
            · exact .stopped rfl rfl
            · exact downloadProvidersArchive_course here isDir

/-- What an attempt can come to. -/
theorem step_course {attempt : Surroundings × PullProvidersArgs}
    (taken : step before attempt = some after) :
    Course attempt.1 attempt.2 before after (pull attempt.1 attempt.2 before).2.2 := by
  cases taken
  exact pull_course attempt.1 attempt.2 before

end Pull
end Providers
end Fpd
