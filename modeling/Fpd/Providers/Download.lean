import Fpd.Http.HeaderMap
import Fpd.Text.Pattern
import Fpd.Unix.Path

namespace Fpd
namespace Providers
namespace Pull

open Http
open Text
open Unix
open Unix.Path

/-!
# Downloading an archive of providers

The archive of a branch is found among the artifacts of its workflow, and the
one of a release among its assets.  Both are asked for with the client of
GitHub, which carries the token if there is one.  Where the answer leads
elsewhere the pull follows it once: with the same client if the text of the
location starts with the address of GitHub's interface, and with one that knows
no token otherwise.  That one follows further redirections by itself, which
counts as one request of the pull, and what the pull gets is the last answer.

What the web answers may depend on everything that the pull has asked before.
-/

/-! ## Where things are kept -/

/-- `crate::runtime::Error` -/
inductive RuntimeError
  | projDir
  | providersDirUnavailable (path : OsStr)
  deriving DecidableEq, Repr

/-- The directories that the system sets aside for the daemon. -/
structure ProjectDirs where
  configDir : OsStr
  dataLocalDir : OsStr
  deriving DecidableEq, Repr

def dataSourcesPath (projectDirs : Option ProjectDirs) : Except RuntimeError OsStr :=
  match projectDirs with
  | none => .error .projDir
  | some projectDirs => .ok (push projectDirs.configDir (ascii "data_sources.yaml"))

def providersWasmDir (projectDirs : Option ProjectDirs) : Except RuntimeError OsStr :=
  match projectDirs with
  | none => .error .projDir
  | some projectDirs => .ok (push projectDirs.dataLocalDir (ascii "providers"))

/-! ## What is asked -/

/-- The errors of the libraries come with a description of their own. -/
inductive Error
  | runtime (error : RuntimeError)
  | gitHub (description : String)
  | hyper (description : String)
  | io (description : String)
  | network (description : String)
  | zip (description : String)
  | artifactsExpired (branchName : String)
  | providersNotFound
  | tokenRequired
  | other (message : String)
  deriving DecidableEq, Repr

/-- Why a pull does not get to its end. -/
inductive Stop
  | failed (error : Error)
  | panicked
  deriving DecidableEq, Repr

/-- The client of GitHub, with its token, and the one without a token. -/
inductive Client
  | octocrab (personalToken : Option String)
  | reqwest
  deriving DecidableEq, Repr

inductive Target
  | latestRelease
  | releaseByTag (tag : String)
  | artifacts (name : String)
  | url (url : List Char)
  deriving DecidableEq, Repr

structure Request where
  client : Client
  target : Target
  deriving DecidableEq, Repr

structure Asset where
  name : String
  browserDownloadUrl : String
  deriving DecidableEq, Repr

structure Release where
  assets : List Asset
  deriving DecidableEq, Repr

structure WorkflowRunSummary where
  headBranch : String
  deriving DecidableEq, Repr

structure Artifact where
  expired : Bool
  archiveDownloadUrl : String
  workflowRun : Option WorkflowRunSummary
  deriving DecidableEq, Repr

structure Response where
  status : Nat
  headers : HeaderMap
  body : Except Error (List UInt8)

/-- What the requests of a pull come to, after those up to then. -/
structure Web where
  release : List Request -> Request -> Except Error Release
  artifacts : List Request -> Request -> Except Error (List Artifact)
  get : List Request -> Request -> Except Error Response

/-! ## Asking -/

def githubBaseUri : String := "https://api.github.com"

/-- `StatusCode::is_redirection` -/
def isRedirection (status : Nat) : Bool :=
  decide (300 ≤ status) && decide (status < 400)

def withoutBase (url : List Char) : List Char :=
  trimStartMatches githubBaseUri.toList url

/-- How the pull follows a redirection. -/
def follow (personalToken : Option String) (location : List Char) : Request :=
  if startsWith githubBaseUri.toList location then
    ⟨.octocrab personalToken, .url (withoutBase location)⟩
  else ⟨.reqwest, .url location⟩

/-- What `download_providers_tarball` and `download_providers_zip` do to get
hold of the archive.  A redirect without a location makes both panic, and the
status of what it leads to is not looked at. -/
def download (web : Web) (personalToken : Option String) (asked : List Request)
    (downloadUrl : String) : List Request × Except Stop (List UInt8) :=
  let first : Request := ⟨.octocrab personalToken, .url (withoutBase downloadUrl.toList)⟩
  match web.get asked first with
  | .error error => (asked ++ [first], .error (.failed error))
  | .ok response =>
      if isRedirection response.status then
        match (response.headers.get "location").bind HeaderValue.toStr with
        | none => (asked ++ [first], .error .panicked)
        | some location =>
            let second := follow personalToken location.toList
            match web.get (asked ++ [first]) second with
            | .error error => (asked ++ [first, second], .error (.failed error))
            | .ok response => (asked ++ [first, second], response.body.mapError .failed)
      else (asked ++ [first], response.body.mapError .failed)

/-- The first artifact of the branch is taken for the latest. -/
def fetchLatestArtifact (web : Web) (personalToken : Option String) (asked : List Request)
    (branch : String) : List Request × Except Stop Artifact :=
  let request : Request := ⟨.octocrab personalToken, .artifacts "fiberplane-providers"⟩
  match web.artifacts asked request with
  | .error error => (asked ++ [request], .error (.failed error))
  | .ok artifacts =>
      match artifacts.find? fun artifact =>
          match artifact.workflowRun with
          | some run => decide (run.headBranch = branch)
          | none => false with
      | none => (asked ++ [request], .error (.failed .providersNotFound))
      | some artifact => (asked ++ [request], .ok artifact)

/-- The asset of a release that holds the providers. -/
def fetchAsset (web : Web) (personalToken : Option String) (asked : List Request)
    (release : String) : List Request × Except Stop Asset :=
  let request : Request := ⟨.octocrab personalToken,
    if release = "latest" then .latestRelease else .releaseByTag release⟩
  match web.release asked request with
  | .error error => (asked ++ [request], .error (.failed error))
  | .ok release =>
      match release.assets.find? fun asset => decide (asset.name = "providers.tgz") with
      | none => (asked ++ [request], .error (.failed .providersNotFound))
      | some asset => (asked ++ [request], .ok asset)

/-! ## What a token is for -/

/-- The client of GitHub carries the given token, and no text that is handed to
either client as a URL starts with the address of GitHub's interface, as it is
written here. -/
def Proper (personalToken : Option String) (request : Request) : Prop :=
  match request.client, request.target with
  | .octocrab token, .url url =>
      token = personalToken ∧ startsWith githubBaseUri.toList url = false
  | .octocrab token, _ => token = personalToken
  | .reqwest, .url url => startsWith githubBaseUri.toList url = false
  | .reqwest, _ => False

/-- At most so many requests have been added, all of them proper. -/
def Adds (personalToken : Option String) (most : Nat) (asked after : List Request) : Prop :=
  Exists fun added => after = asked ++ added ∧ added.length ≤ most ∧
    forall request, request ∈ added -> Proper personalToken request

variable {personalToken : Option String} {most others : Nat}
  {asked between after : List Request}

theorem Adds.none (personalToken : Option String) (most : Nat) (asked : List Request) :
    Adds personalToken most asked asked :=
  ⟨[], (List.append_nil asked).symm, Nat.zero_le _, nofun⟩

theorem Adds.single {request : Request} (proper : Proper personalToken request) :
    Adds personalToken 1 asked (asked ++ [request]) := by
  refine ⟨[request], rfl, Nat.le_refl _, fun other member => ?_⟩
  rw [List.mem_singleton] at member
  exact member ▸ proper

theorem Adds.trans (first : Adds personalToken most asked between)
    (second : Adds personalToken others between after) :
    Adds personalToken (most + others) asked after := by
  obtain ⟨added, rfl, few, proper⟩ := first
  obtain ⟨more, rfl, fewMore, properMore⟩ := second
  refine ⟨added ++ more, List.append_assoc asked added more, ?_, fun request member => ?_⟩
  · rw [List.length_append]
    omega
  · rcases List.mem_append.mp member with inside | inside
    · exact proper request inside
    · exact properMore request inside

theorem Adds.mono (adds : Adds personalToken most asked after) (more : most ≤ others) :
    Adds personalToken others asked after := by
  obtain ⟨added, same, few, proper⟩ := adds
  exact ⟨added, same, Nat.le_trans few more, proper⟩

theorem startsWith_withoutBase (url : List Char) :
    startsWith githubBaseUri.toList (withoutBase url) = false :=
  startsWith_trimStartMatches (by decide) url

theorem proper_follow (personalToken : Option String) (location : List Char) :
    Proper personalToken (follow personalToken location) := by
  unfold follow
  by_cases github : startsWith githubBaseUri.toList location = true
  · rw [if_pos github]
    exact ⟨rfl, startsWith_withoutBase location⟩
  · rw [if_neg github]
    exact Bool.eq_false_iff.mpr github

theorem download_adds (web : Web) (personalToken : Option String) (asked : List Request)
    (downloadUrl : String) :
    Adds personalToken 2 asked (download web personalToken asked downloadUrl).1 := by
  have first : Adds personalToken 1 asked
      (asked ++ [⟨.octocrab personalToken, .url (withoutBase downloadUrl.toList)⟩]) :=
    .single ⟨rfl, startsWith_withoutBase _⟩
  have both (location : List Char) : Adds personalToken 2 asked
      (asked ++ [⟨.octocrab personalToken, .url (withoutBase downloadUrl.toList)⟩,
        follow personalToken location]) := by
    have second := first.trans (.single (proper_follow personalToken location))
    rw [List.append_assoc] at second
    exact second
  have one := first.mono (Nat.le_succ 1)
  unfold download
  dsimp only
  split
  · exact one
  · split
    · split
      · exact one
      · split <;> exact both _
    · exact one

theorem fetchLatestArtifact_adds (web : Web) (personalToken : Option String)
    (asked : List Request) (branch : String) :
    Adds personalToken 1 asked (fetchLatestArtifact web personalToken asked branch).1 := by
  have one : Adds personalToken 1 asked
      (asked ++ [⟨.octocrab personalToken, .artifacts "fiberplane-providers"⟩]) := .single rfl
  unfold fetchLatestArtifact
  dsimp only
  split
  · exact one
  · split <;> exact one

theorem fetchAsset_adds (web : Web) (personalToken : Option String) (asked : List Request)
    (release : String) :
    Adds personalToken 1 asked (fetchAsset web personalToken asked release).1 := by
  have one : Adds personalToken 1 asked (asked ++ [⟨.octocrab personalToken,
      if release = "latest" then .latestRelease else .releaseByTag release⟩]) := by
    refine .single ?_
    by_cases latest : release = "latest"
    · rw [if_pos latest]
      exact rfl
    · rw [if_neg latest]
      exact rfl
  unfold fetchAsset
  dsimp only
  split
  · exact one
  · split <;> exact one

end Pull
end Providers
end Fpd
