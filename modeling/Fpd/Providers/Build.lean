import Fpd.Providers.Pull

namespace Fpd
namespace Providers
namespace Build

open Pull
open Unix
open Unix.Path

/-!
# Building providers

Providers can also be built from a checkout, all of them or a single one.  The
build leaves its artifacts in a directory of the checkout, from where they are
copied to the directory for providers: a single one by its name, and all of them
by going through the directory of the artifacts.  Going through the directory
copies what asking for each provider in it would copy.
-/

structure BuildProvidersArgs where
  debug : Bool
  provider : OsStr
  providersDir : OsStr
  wasmDir : Option OsStr
  deriving DecidableEq, Repr

/-- Everything that a build cannot decide by itself.  A build of `cargo` leaves
other files than there were, and what reading the directory of the artifacts
yields thereafter. -/
structure Workshop where
  around : Surroundings
  display : OsStr -> String
  cargo : OsStr -> List OsStr -> Files ->
    Except Pull.Error (Files × Except Pull.Error (List (Except Pull.Error OsStr)))
  fault : OsStr -> OsStr -> Option Pull.Error

/-- `fs::copy`.  A file that is copied to where it is gets truncated. -/
def copy (workshop : Workshop) (files : Files) (source target : OsStr) :
    Files × Except Stop Unit :=
  match workshop.fault source target, files source with
  | some error, _ => (files, .error (.failed error))
  | none, none => (files, .error (.failed (.io "No such file or directory (os error 2)")))
  | none, some bytes =>
      (Function.update files target (some (if source = target then [] else bytes)), .ok ())

/-- Without a directory there is no destination, which makes the task panic. -/
def copyTo (workshop : Workshop) (directory : Option OsStr) (files : Files)
    (source provider : OsStr) : Files × Except Stop Unit :=
  match directory with
  | none => (files, .error .panicked)
  | some directory =>
      copy workshop files source (getProviderDestination directory none provider)

/-- The artifact of one provider. -/
def copyArtifact (workshop : Workshop) (providersDir : OsStr) (directory : Option OsStr)
    (files : Files) (provider : OsStr) : Files × Except Stop Unit :=
  copyTo workshop directory files
    (push providersDir (ascii "artifacts/" ++ provider ++ ascii ".wasm")) provider

def copyAllArtifacts (workshop : Workshop) (artifactsPath : OsStr) (directory : Option OsStr)
    (files : Files) : List (Except Pull.Error OsStr) -> Files × Except Stop Unit
  | [] => (files, .ok ())
  | .error error :: _ => (files, .error (.failed error))
  | .ok name :: names =>
      let path := push artifactsPath name
      if (extension path).getD [] != ascii "wasm" then
        copyAllArtifacts workshop artifactsPath directory files names
      else
        match fileStem path with
        | none => (files, .error (.failed (.other "Artifact had no filename")))
        | some provider =>
            match copyTo workshop directory files path provider with
            | (files, .error stop) => (files, .error stop)
            | (files, .ok ()) => copyAllArtifacts workshop artifactsPath directory files names

def buildProviders (workshop : Workshop) (args : BuildProvidersArgs) (world : World) :
    World × Except Stop Unit :=
  let directory := (wasmDirectory workshop.around.projectDirs args.wasmDir).toOption
  match ensureWasmDir workshop.around args.wasmDir world with
  | (world, .error stop) => (world, .error stop)
  | (world, .ok ()) =>
      if !world.pathExists args.providersDir then
        (world, .error (.failed (.other
          ("Providers directory `" ++ workshop.display args.providersDir ++ "` doesn't exist"))))
      else
        match workshop.cargo args.providersDir
            ([ascii "xtask", ascii "build", args.provider] ++
              if args.debug then [ascii "--debug"] else []) world.files with
        | .error error => (world, .error (.failed error))
        | .ok (built, listing) =>
            if args.provider = ascii "all" then
              match listing with
              | .error error => ({ world with files := built }, .error (.failed error))
              | .ok names =>
                  let copied := copyAllArtifacts workshop
                    (push args.providersDir (ascii "artifacts")) directory built names
                  ({ world with files := copied.1 }, copied.2)
            else
              let copied := copyArtifact workshop args.providersDir directory built args.provider
              ({ world with files := copied.1 }, copied.2)

/-! ## One by one -/

/-- The artifacts of some providers, one after another. -/
def copyEach (workshop : Workshop) (providersDir : OsStr) (directory : Option OsStr)
    (files : Files) : List OsStr -> Files × Except Stop Unit
  | [] => (files, .ok ())
  | provider :: providers =>
      match copyArtifact workshop providersDir directory files provider with
      | (files, .error stop) => (files, .error stop)
      | (files, .ok ()) => copyEach workshop providersDir directory files providers

/-- The providers that a directory has artifacts of. -/
def builtProviders (names : List OsStr) : List OsStr :=
  (names.filter isWasm).filterMap fileStem

theorem fileName_of_plainName {name : OsStr} (plain : PlainName name) :
    fileName name = some name := by
  have pushed := @fileName_push [] name plain.1 plain.2
  rw [push, isAbsolute_of_relative plain.1, if_neg Bool.false_ne_true, if_pos (Or.inl rfl),
    List.nil_append] at pushed
  exact pushed

/-- A file goes by its name, whatever directory it is in. -/
theorem extension_push {directory name : OsStr} (plain : PlainName name) :
    extension (push directory name) = extension name := by
  rw [extension, extension, fileName_push plain.1 plain.2, fileName_of_plainName plain]

theorem fileStem_push {directory name : OsStr} (plain : PlainName name) :
    fileStem (push directory name) = fileStem name := by
  rw [fileStem, fileStem, fileName_push plain.1 plain.2, fileName_of_plainName plain]

/-- What is found in the directory of the artifacts is the artifact of the
provider that it is named after. -/
theorem push_artifacts {name provider : OsStr} (plain : PlainName name)
    (wasm : isWasm name = true) (stem : fileStem name = some provider)
    (providersDir : OsStr) :
    push (push providersDir (ascii "artifacts")) name =
      push providersDir (ascii "artifacts/" ++ provider ++ ascii ".wasm") := by
  obtain ⟨other, sameStem, named⟩ := exists_stem_of_extension (of_decide_eq_true wasm)
  rw [stem, Option.some.injEq] at sameStem
  subst sameStem
  rw [fileName_of_plainName plain, Option.some.injEq] at named
  rw [push_push (by decide) (by decide) (isAbsolute_of_relative plain.1), named]
  rfl

theorem passes_over (name : OsStr) :
    ((extension name).getD [] != ascii "wasm") = !isWasm name := by
  cases found : extension name with
  | none =>
      simp only [isWasm, found]
      decide
  | some ext => simp [isWasm, found, bne, beq_eq_decide]

/-- Going through the directory copies what asking for each provider that has been
built would copy, in the same order and with the same end. -/
theorem copyAllArtifacts_eq_each (workshop : Workshop) (providersDir : OsStr)
    (directory : Option OsStr) (files : Files) (names : List OsStr)
    (plain : forall name, name ∈ names -> PlainName name) :
    copyAllArtifacts workshop (push providersDir (ascii "artifacts")) directory files
        (names.map .ok) =
      copyEach workshop providersDir directory files (builtProviders names) := by
  induction names generalizing files with
  | nil => rfl
  | cons name names inductionHypothesis =>
      have onwards {files : Files} := @inductionHypothesis files fun other member =>
        plain other (List.mem_cons_of_mem _ member)
      have named := plain name List.mem_cons_self
      rw [List.map_cons, copyAllArtifacts, extension_push named, fileStem_push named,
        passes_over]
      by_cases wasm : isWasm name = true
      · obtain ⟨provider, stem⟩ := Option.isSome_iff_exists.mp (fileStem_isSome_of_isWasm wasm)
        have each : builtProviders (name :: names) = provider :: builtProviders names := by
          rw [builtProviders, List.filter_cons_of_pos wasm, List.filterMap_cons, stem]
          rfl
        rw [wasm, Bool.not_true, if_neg Bool.false_ne_true, stem, each, copyEach, copyArtifact,
          push_artifacts named wasm stem]
        dsimp only
        cases copyTo workshop directory files
            (push providersDir (ascii "artifacts/" ++ provider ++ ascii ".wasm")) provider with
        | mk copied result =>
            cases result with
            | error stop => rfl
            | ok => exact onwards
      · rw [Bool.eq_false_iff.mpr wasm, Bool.not_false, if_pos rfl, onwards, builtProviders,
          builtProviders, List.filter_cons_of_neg wasm]

/-- One build after another, each of a single provider. -/
def buildEach (workshop : Workshop) (args : BuildProvidersArgs) (world : World) :
    List OsStr -> World × Except Stop Unit
  | [] => (world, .ok ())
  | provider :: providers =>
      match buildProviders workshop { args with provider := provider } world with
      | (world, .error stop) => (world, .error stop)
      | (world, .ok ()) => buildEach workshop args world providers

section Ready

variable {workshop : Workshop} {args : BuildProvidersArgs} {world : World} {directory : OsStr}
  {names : List OsStr} {provider : OsStr}

theorem ensureWasmDir_of_isDir {around : Surroundings} {wasmDir : Option OsStr}
    (here : wasmDirectory around.projectDirs wasmDir = .ok directory)
    (isDir : world.isDir directory = true) :
    ensureWasmDir around wasmDir world = (world, .ok ()) := by
  have present : world.pathExists directory = true := by
    rw [World.pathExists, show world.directories directory = true from isDir, Bool.true_or]
  unfold ensureWasmDir
  rw [here]
  dsimp only
  rw [present, isDir, Bool.not_true, Bool.and_false, if_neg Bool.false_ne_true,
    if_neg Bool.false_ne_true]

/-- What is there to be copied stays there. -/
theorem copyArtifact_isSome {providersDir path : OsStr} {files : Files}
    (present : (files path).isSome = true) :
    ((copyArtifact workshop providersDir (some directory) files provider).1 path).isSome =
      true := by
  unfold copyArtifact copyTo copy
  dsimp only
  split
  · exact present
  · exact present
  · dsimp only
    by_cases here : path = getProviderDestination directory none provider
    · subst here
      rw [Function.update_self]
      rfl
    · rw [Function.update_of_ne here]
      exact present

/-- When there is nothing left to build, the artifact is copied. -/
theorem buildProviders_single (single : provider ≠ ascii "all")
    (idle : forall command files,
      workshop.cargo args.providersDir command files = .ok (files, .ok (names.map .ok)))
    (here : wasmDirectory workshop.around.projectDirs args.wasmDir = .ok directory)
    (isDir : world.isDir directory = true)
    (checkout : world.pathExists args.providersDir = true) :
    buildProviders workshop { args with provider := provider } world =
      ({ world with
        files := (copyArtifact workshop args.providersDir (some directory) world.files
          provider).1 },
        (copyArtifact workshop args.providersDir (some directory) world.files provider).2) := by
  unfold buildProviders
  dsimp only
  rw [ensureWasmDir_of_isDir here isDir, here]
  dsimp only [Except.toOption]
  rw [checkout, Bool.not_true, if_neg Bool.false_ne_true, idle]
  dsimp only
  rw [if_neg single]

theorem buildEach_eq_copyEach {providers : List OsStr}
    (single : forall provider, provider ∈ providers -> provider ≠ ascii "all")
    (idle : forall command files,
      workshop.cargo args.providersDir command files = .ok (files, .ok (names.map .ok)))
    (here : wasmDirectory workshop.around.projectDirs args.wasmDir = .ok directory)
    (isDir : world.isDir directory = true)
    (checkout : world.pathExists args.providersDir = true) :
    buildEach workshop args world providers =
      ({ world with
        files := (copyEach workshop args.providersDir (some directory) world.files
          providers).1 },
        (copyEach workshop args.providersDir (some directory) world.files providers).2) := by
  induction providers generalizing world with
  | nil => rfl
  | cons provider providers inductionHypothesis =>
      have still : World.pathExists { world with
          files := (copyArtifact workshop args.providersDir (some directory) world.files
            provider).1 } args.providersDir = true := by
        rw [World.pathExists, Bool.or_eq_true] at checkout ⊢
        exact checkout.imp_right copyArtifact_isSome
      rw [buildEach, buildProviders_single (single provider List.mem_cons_self) idle here isDir
        checkout, copyEach]
      cases copied : copyArtifact workshop args.providersDir (some directory) world.files
          provider with
      | mk files result =>
          cases result with
          | error stop => rfl
          | ok =>
              rw [copied] at still
              exact inductionHypothesis (fun other member =>
                single other (List.mem_cons_of_mem _ member)) isDir still

end Ready

/-- When there is nothing left to build, building all providers comes to the same
as building one after another each that there is an artifact of. -/
theorem build_all_eq_each (workshop : Workshop) (args : BuildProvidersArgs) (world : World)
    (directory : OsStr) (names : List OsStr)
    (plain : forall name, name ∈ names -> PlainName name)
    (single : ascii "all" ∉ builtProviders names)
    (idle : forall command files,
      workshop.cargo args.providersDir command files = .ok (files, .ok (names.map .ok)))
    (here : wasmDirectory workshop.around.projectDirs args.wasmDir = .ok directory)
    (isDir : world.isDir directory = true)
    (checkout : world.pathExists args.providersDir = true) :
    buildProviders workshop { args with provider := ascii "all" } world =
      buildEach workshop args world (builtProviders names) := by
  have others : forall provider, provider ∈ builtProviders names -> provider ≠ ascii "all" := by
    rintro provider member rfl
    exact single member
  rw [buildEach_eq_copyEach others idle here isDir checkout,
    ← copyAllArtifacts_eq_each workshop args.providersDir (some directory) world.files names plain]
  unfold buildProviders
  dsimp only
  rw [ensureWasmDir_of_isDir here isDir, here]
  dsimp only [Except.toOption]
  rw [checkout, Bool.not_true, if_neg Bool.false_ne_true, idle]
  rfl

/-! ## A build of two providers -/

def builtWorld : World where
  files path :=
    if path = ascii "../providers/artifacts/loki.wasm" then some [1]
    else if path = ascii "../providers/artifacts/prometheus.wasm" then some [2]
    else none
  directories path := decide (path = ascii "/w") || decide (path = ascii "../providers")
  opened := []

def builtWorkshop : Workshop where
  around :=
    { projectDirs := none
      createDirAll := fun _ => .ok ()
      buildOctocrab := fun _ => .ok ()
      web := ⟨fun _ _ => .ok ⟨[]⟩, fun _ _ => .ok [], fun _ _ => .error .tokenRequired⟩
      unpack := fun _ _ => .ok [] }
  display _ := "../providers"
  cargo _ _ files :=
    .ok (files, .ok ([ascii "loki.d", ascii "loki.wasm", ascii "prometheus.wasm"].map .ok))
  fault source _ :=
    if source = ascii "../providers/artifacts/prometheus.wasm" then
      some (.io "Permission denied (os error 13)")
    else none

def buildArgs : BuildProvidersArgs :=
  ⟨false, ascii "all", ascii "../providers", some (ascii "/w")⟩

/-- The second copy fails either way. -/
theorem build_all_eq_each_loki :
    buildProviders builtWorkshop buildArgs builtWorld =
        buildEach builtWorkshop buildArgs builtWorld [ascii "loki", ascii "prometheus"] ∧
      (buildEach builtWorkshop buildArgs builtWorld [ascii "loki", ascii "prometheus"]).2 =
        .error (.failed (.io "Permission denied (os error 13)")) :=
  ⟨build_all_eq_each builtWorkshop buildArgs builtWorld (ascii "/w")
    [ascii "loki.d", ascii "loki.wasm", ascii "prometheus.wasm"] (by decide) (by decide)
    (fun _ _ => rfl) rfl rfl rfl, rfl⟩

end Build
end Providers
end Fpd
