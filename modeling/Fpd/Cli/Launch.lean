import Fpd.Providers.Recovery
import Fpd.Service.Init
import Fpd.Unix.Resolve

namespace Fpd
namespace Cli

open Async
open Providers
open Providers.Pull
open Service
open Unix
open Unix.Path

/-!
# Starting the daemon

Without a subcommand the daemon looks for its providers and for the list of its
data sources.  Both are taken from where the arguments say, or from the working
directory if they are there, or else from where the system keeps such things.  A
pull does not look into the working directory, so what it has installed is what
the daemon loads unless there are providers in the working directory.
-/

/-- The errors of reading a file, with their texts. -/
inductive ReadError
  | notFound (text : String)
  | permissionDenied (text : String)
  | other (text : String)
  deriving DecidableEq, Repr

inductive Failure
  | runtime (error : RuntimeError)
  | wasmDirNotDirectory (wasmDir : OsStr)
  | dataSources (path : OsStr) (error : ReadError)
  | tokenMandatory
  deriving DecidableEq, Repr

inductive Stop
  | failed (failure : Failure)
  | panicked (message : String)
  deriving DecidableEq, Repr

/-- What the main function reads of the arguments. -/
structure Arguments where
  wasmDir : Option OsStr
  token : Option String
  dataSourcesPath : Option OsStr
  maxRetries : Nat
  listenAddress : Option String
  statusCheckInterval : Duration

/-- What is not part of the daemon: the system, the parser of the list, and the
compiler of the runtime. -/
structure Host where
  projectDirs : Option ProjectDirs
  readToString : OsStr -> Except ReadError String
  readFailure : OsStr -> String
  fromYaml : String -> Except String (List ProxyDataSource)
  compile : Bytes -> Except String Runtime

/-- The bytes of a text. -/
def utf8 (text : String) : OsStr :=
  text.toList.flatMap String.utf8EncodeChar

def localProviders : OsStr := ascii "./providers"

def localDataSources : OsStr := ascii "./data_sources.yaml"

def resolveWasmDir (projectDirs : Option ProjectDirs) (world : World) (wasmDir : Option OsStr) :
    Except RuntimeError OsStr :=
  match wasmDir with
  | some wasmDir => .ok wasmDir
  | none =>
      if world.pathExists localProviders && world.isDir localProviders then .ok localProviders
      else providersWasmDir projectDirs

def resolveDataSourcesPath (projectDirs : Option ProjectDirs) (world : World)
    (path : Option OsStr) : Except RuntimeError OsStr :=
  match path with
  | some path => .ok path
  | none =>
      if (world.files localDataSources).isSome then .ok localDataSources
      else dataSourcesPath projectDirs

/-- The directory that the modules are loaded from. -/
def loadFrom (host : Host) (world : World) (wasmDir : OsStr) : WasmDir where
  read name :=
    match world.files (push wasmDir (utf8 name)) with
    | some bytes => .ok bytes
    | none => .error (host.readFailure (push wasmDir (utf8 name)))
  compile := host.compile

/-- The main function up to the service. -/
def launch (host : Host) (args : Arguments) (world : World) : Except Stop ProxyService :=
  match resolveWasmDir host.projectDirs world args.wasmDir with
  | .error error => .error (.failed (.runtime error))
  | .ok wasmDir =>
      if !world.isDir wasmDir then .error (.failed (.wasmDirNotDirectory wasmDir))
      else
        match resolveDataSourcesPath host.projectDirs world args.dataSourcesPath with
        | .error error => .error (.failed (.runtime error))
        | .ok path =>
            match host.readToString path with
            | .error error => .error (.failed (.dataSources path error))
            | .ok text =>
                match host.fromYaml text with
                | .error _ => .error (.panicked "Invalid 'data_sources.yaml' file")
                | .ok dataSources =>
                    match args.token with
                    | none => .error (.failed .tokenMandatory)
                    | some _ =>
                        .ok (.init (loadFrom host world wasmDir) dataSources args.maxRetries
                          args.listenAddress args.statusCheckInterval)

/-! ## Where the modules come from -/

variable {host : Host} {args : Arguments} {world : World} {service : ProxyService}
  {wasmDir : OsStr} {name : Name} {dataSource : ProxyDataSource}

theorem utf8_append (text other : String) : utf8 (text ++ other) = utf8 text ++ utf8 other := by
  rw [utf8, String.toList_append, List.flatMap_append]
  rfl

/-- The daemon looks for a provider where a pull has put it. -/
theorem push_utf8 (wasmDir : OsStr) (providerType : String) :
    push wasmDir (utf8 (providerType ++ ".wasm")) =
      getProviderDestination wasmDir none (utf8 providerType) := by
  have same : utf8 ".wasm" = ascii ".wasm" := by decide
  rw [utf8_append, same]
  rfl

theorem launch_loads (launched : launch host args world = .ok service)
    (resolved : resolveWasmDir host.projectDirs world args.wasmDir = .ok wasmDir)
    (found : service.dataSources.lookup name = some dataSource) :
    service.wasmModules.lookup dataSource.providerType =
      some (loadWasmModule (loadFrom host world wasmDir) dataSource.providerType) := by
  unfold launch at launched
  rw [resolved] at launched
  dsimp only at launched
  split at launched
  · cases launched
  · split at launched
    · cases launched
    · split at launched
      · cases launched
      · split at launched
        · cases launched
        · split at launched
          · cases launched
          · cases launched
            exact init_wasmModules found

/-- A directory for providers that is there is no reason to stop. -/
theorem launch_ne_notDirectory {other : OsStr}
    (resolved : resolveWasmDir host.projectDirs world args.wasmDir = .ok wasmDir)
    (isDir : world.isDir wasmDir = true) :
    launch host args world ≠ .error (.failed (.wasmDirNotDirectory other)) := by
  intro stopped
  unfold launch at stopped
  rw [resolved] at stopped
  dsimp only at stopped
  rw [isDir, Bool.not_true, if_neg Bool.false_ne_true] at stopped
  split at stopped
  · cases stopped
  · split at stopped
    · cases stopped
    · split at stopped
      · cases stopped
      · split at stopped <;> cases stopped

/-! ## A pull and what follows -/

/-- Unless there are providers in the working directory, the daemon takes them
from where a pull with the same arguments puts them. -/
theorem resolveWasmDir_eq (projectDirs : Option ProjectDirs) (world : World)
    (given : Option OsStr)
    (alone : given = none -> world.isDir localProviders = false) :
    resolveWasmDir projectDirs world given = wasmDirectory projectDirs given := by
  cases given with
  | some wasmDir => rfl
  | none =>
      unfold resolveWasmDir
      rw [alone rfl, Bool.and_false, if_neg Bool.false_ne_true]
      rfl

/-- After a pull that succeeds, whatever the pulls before it have left, the
daemon finds a directory for providers, and each of its data sources whose
provider was in the archive runs the module in that provider's last entry. -/
theorem pulled_providers_loaded (around : Surroundings) (pullArgs : PullProvidersArgs)
    (before : World) (done : (pull around pullArgs before).2.2 = .ok ()) (host : Host)
    (args : Arguments) (sameDirs : host.projectDirs = around.projectDirs)
    (sameDir : args.wasmDir = pullArgs.wasmDir)
    (alone : args.wasmDir = none ->
      (pull around pullArgs before).2.1.isDir localProviders = false) :
    Exists fun last =>
      (pull around pullArgs before).2.1.opened = before.opened ++ [last] ∧
        (forall wasmDir, launch host args (pull around pullArgs before).2.1 ≠
          .error (.failed (.wasmDirNotDirectory wasmDir))) ∧
        forall service, launch host args (pull around pullArgs before).2.1 = .ok service ->
          forall name dataSource, service.dataSources.lookup name = some dataSource ->
            forall entry, ((taken last.format last.turns).filter fun entry =>
                decide (fileStem entry.path = some (utf8 dataSource.providerType))).getLast? =
                  some entry ->
              service.wasmModules.lookup dataSource.providerType =
                some ((host.compile entry.bytes).mapError fun err =>
                  .invocation ("Error compiling wasm module: " ++ err)) := by
  have course := pull_course around pullArgs before
  rw [done] at course
  cases course with
  | @unpacked _ directory format turns here isDir opened unpacked =>
      have resolved := resolveWasmDir_eq host.projectDirs _ args.wasmDir alone
      rw [sameDirs, sameDir, here] at resolved
      rw [← sameDirs, ← sameDir] at resolved
      refine ⟨_, opened, fun stopped => launch_ne_notDirectory resolved isDir, ?_⟩
      · intro service launched name dataSource found entry last
        have stem := List.mem_of_getLast? last
        rw [List.mem_filter, decide_eq_true_iff] at stem
        have present := congrFun (replay_of_unpack unpacked)
          (getProviderDestination directory none (utf8 dataSource.providerType))
        rw [replay_provider (separator_not_mem_of_fileStem stem.2), last, Option.map_some,
          Option.some_or, ← push_utf8] at present
        rw [launch_loads launched resolved found, loadWasmModule]
        simp only [loadFrom, present]

/-! ## Providers in the working directory -/

/-- The files and directories by the paths that lead to them. -/
def seen (resolve : OsStr -> OsStr) (world : World) : World :=
  { world with
    files := fun path => world.files (resolve path)
    directories := fun path => world.directories (resolve path) }

/-- Paths lead to places in any way in which no file of a module is a link. -/
abbrev Leads (resolve : OsStr -> OsStr) : Prop :=
  Resolves resolve fun name => ascii ".wasm" <:+ name

/-- The providers in the working directory are not those of the system, whose
directory is known by where it is. -/
def Apart (resolve : OsStr -> OsStr) (projectDirs : Option ProjectDirs) : Prop :=
  forall directory, providersWasmDir projectDirs = .ok directory ->
    resolve directory = directory ∧ resolve localProviders ≠ directory

/-- A pull into the directory of the system leaves the modules in the working
directory alone. -/
theorem localModule_stays {resolve : OsStr -> OsStr} {files : Files}
    {directories : OsStr -> Bool} {later : World} {projectDirs : Option ProjectDirs}
    {providerType : String} (leads : Leads resolve) (apart : Apart resolve projectDirs)
    (reached : Reaches step (fun _ attempt => attempt.1.projectDirs = projectDirs ∧
      attempt.2.wasmDir = none) ⟨files, directories, []⟩ later)
    (named : separator ∉ utf8 providerType) :
    later.files (resolve (getProviderDestination localProviders none (utf8 providerType))) =
      files (resolve (getProviderDestination localProviders none (utf8 providerType))) := by
  rcases left_of_reaches reached
    (resolve (getProviderDestination localProviders none (utf8 providerType))) with
    same | ⟨archive, member, directory, provider, turn, here, _, _, stem, target, _⟩
  · exact same
  · obtain ⟨other, located, there⟩ := directory_of_reaches reached archive member
    rw [here, Option.some.injEq] at there
    subst there
    obtain ⟨itself, elsewhere⟩ := apart directory located
    have plain := plainName_wasm (separator_not_mem_of_fileStem stem)
    have inside : resolve (push directory (provider ++ ascii ".wasm")) =
        push directory (provider ++ ascii ".wasm") := by
      rw [leads.below _ _ plain (List.suffix_append _ _), itself]
    have different := leads.push_ne (plainName_wasm named) (List.suffix_append _ _) plain
      (List.suffix_append _ _) (fun same => elsewhere (same.trans itself))
    exact absurd (target.trans inside.symm) different

/-- While there are providers in the working directory, and these are not those of
the system, a daemon that is told nothing else loads them as they are, however
many pulls there are into the directory of the system. -/
theorem local_providers_stay (host : Host) (args : Arguments) (resolve : OsStr -> OsStr)
    (files : Files) (directories : OsStr -> Bool) (later : World) (service : ProxyService)
    (name : Name) (dataSource : ProxyDataSource) (leads : Leads resolve)
    (apart : Apart resolve host.projectDirs)
    (reached : Reaches step (fun _ attempt => attempt.1.projectDirs = host.projectDirs ∧
      attempt.2.wasmDir = none) ⟨files, directories, []⟩ later)
    (present : directories (resolve localProviders) = true) (unset : args.wasmDir = none)
    (launched : launch host args (seen resolve later) = .ok service)
    (found : service.dataSources.lookup name = some dataSource)
    (named : separator ∉ utf8 dataSource.providerType) :
    service.wasmModules.lookup dataSource.providerType =
      some (loadWasmModule (loadFrom host (seen resolve ⟨files, directories, []⟩) localProviders)
        dataSource.providerType) := by
  have isDir : later.directories (resolve localProviders) = true :=
    directories_of_reaches reached present
  have resolved : resolveWasmDir host.projectDirs (seen resolve later) args.wasmDir =
      .ok localProviders := by
    rw [unset]
    unfold resolveWasmDir World.pathExists World.isDir seen
    dsimp only
    rw [isDir]
    rfl
  have same := localModule_stays leads apart reached named
  rw [← push_utf8] at same
  rw [launch_loads launched resolved found]
  unfold loadWasmModule loadFrom seen
  dsimp only
  rw [same]

/-! ## A daemon with a provider that has been pulled -/

def pulledWorld : World :=
  (pull (serving [⟨loki, none⟩]) latest ⟨fun _ => none, fun _ => false, []⟩).2.1

def lokiSource : ProxyDataSource := ⟨"logs", "loki", ⟨"\x7b\x7d"⟩, none⟩

def lokiHost : Host where
  projectDirs := none
  readToString _ := .ok ""
  readFailure _ := "No such file or directory"
  fromYaml _ := .ok [lokiSource]
  compile bytes := .ok ⟨bytes⟩

def lokiArguments : Arguments :=
  ⟨some (ascii "/w"), some "token", some (ascii "/etc/data_sources.yaml"), 10, none, 300⟩

def lokiService : ProxyService :=
  .init (loadFrom lokiHost pulledWorld (ascii "/w")) [lokiSource] 10 none 300

theorem pulled_providers_loaded_loki :
    lokiService.wasmModules.lookup "loki" = some (.ok ⟨[1]⟩) := by
  obtain ⟨last, opened, _, loaded⟩ := pulled_providers_loaded (serving [⟨loki, none⟩]) latest
    ⟨fun _ => none, fun _ => false, []⟩ rfl lokiHost lokiArguments rfl rfl nofun
  have only : [⟨some (ascii "/w"), .tarball, [⟨loki, none⟩]⟩] = [last] := opened
  cases only
  exact loaded lokiService rfl "logs" lokiSource rfl loki rfl

/-! ## A daemon with a provider of its own -/

def localFiles : Files :=
  Function.update (fun _ => none) (ascii "/home/me/providers/loki.wasm") (some [7])

def localDirectories (path : OsStr) : Bool :=
  decide (path = ascii "/home/me/providers")

def systemHost : Host :=
  { lokiHost with projectDirs := some ⟨ascii "/etc/fpd", ascii "/var/fpd"⟩ }

/-- The pull goes to the directory of the system. -/
def pulledElsewhere : World :=
  (pull { serving [⟨loki, none⟩] with projectDirs := systemHost.projectDirs }
    { latest with wasmDir := none } ⟨localFiles, localDirectories, []⟩).2.1

def localService : ProxyService :=
  .init (loadFrom systemHost (seen (resolveFrom (ascii "/home/me")) pulledElsewhere) localProviders)
    [lokiSource] 10 none 300

theorem local_providers_stay_loki :
    localService.wasmModules.lookup "loki" = some (.ok ⟨[7]⟩) := by
  have taken : step ⟨localFiles, localDirectories, []⟩
      ({ serving [⟨loki, none⟩] with projectDirs := systemHost.projectDirs },
        { latest with wasmDir := none }) = some pulledElsewhere := rfl
  have reached : Reaches step (fun _ attempt => attempt.1.projectDirs = systemHost.projectDirs ∧
      attempt.2.wasmDir = none) ⟨localFiles, localDirectories, []⟩ pulledElsewhere :=
    .single ⟨rfl, rfl⟩ taken
  have apart : Apart (resolveFrom (ascii "/home/me")) systemHost.projectDirs := by
    intro directory given
    cases given
    decide
  exact (local_providers_stay systemHost { lokiArguments with wasmDir := none }
    (resolveFrom (ascii "/home/me")) localFiles localDirectories pulledElsewhere localService "logs"
    lokiSource (resolveFrom_resolves _ _) apart reached (by decide) rfl rfl rfl
    (by decide)).trans rfl

end Cli
end Fpd
