import Fpd.Http.Url
import Fpd.Service.Bindings
import Fpd.Text.Pattern

namespace Fpd
namespace Service

open Http
open Text

/-!
# The endpoint of the relay

The base of the API may be given with the schemes of HTTP or with those of
websockets.  The path of the endpoint is joined to it, and a scheme that starts
as HTTP does becomes the one of websockets.  That never fails, so the service
gets an endpoint from every URL that a path can be joined to.
-/

/-- What the path of the endpoint is made of.  An identifier is written in a
URL-safe encoding, and a name has letters, digits and dashes only. -/
structure ProxyToken where
  workspaceId : List Char
  proxyName : List Char
  workspacePlain : IsPlainSegment workspaceId
  proxyPlain : IsPlainSegment proxyName

def httpScheme : List Char := "http".toList

def wsScheme : List Char := "ws".toList

def endpointPath (token : ProxyToken) : List Char :=
  "/api/workspaces/".toList ++ token.workspaceId ++ "/proxies/".toList ++ token.proxyName ++
    "/ws".toList

variable {Url : Type}

/-- The endpoint in `ProxyService::new`. -/
def endpoint (urls : Urls Url) (apiBase : Url) (token : ProxyToken) : Outcome Url :=
  match urls.join apiBase (endpointPath token) with
  | none => .panicked
  | some endpoint =>
      if startsWith httpScheme (urls.scheme endpoint) then
        match urls.setScheme endpoint (replace httpScheme wsScheme (urls.scheme endpoint)) with
        | none => .panicked
        | some endpoint => .returned endpoint
      else .returned endpoint

/-- What a format makes of plain segments is a path if its parts are made of
plain segments too. -/
theorem isPlainPath_format {before between after workspaceId proxyName : List Char}
    {first second third last : List Char}
    (starts : before = '/' :: first ++ '/' :: second ++ ['/'])
    (goesOn : between = '/' :: third ++ ['/']) (ends : after = '/' :: last)
    (plain : forall segment,
      segment ∈ [first, second, workspaceId, third, proxyName, last] -> IsPlainSegment segment) :
    IsPlainPath (before ++ workspaceId ++ between ++ proxyName ++ after) := by
  refine ⟨[first, second, workspaceId, third, proxyName, last], List.cons_ne_nil _ _, plain, ?_⟩
  subst starts goesOn ends
  simp

theorem endpointPath_plain (token : ProxyToken) : IsPlainPath (endpointPath token) := by
  have fixed : forall segment,
      segment ∈ ["api".toList, "workspaces".toList, "proxies".toList, "ws".toList] ->
        IsPlainSegment segment := by
    decide
  have before : "/api/workspaces/".toList =
      '/' :: "api".toList ++ '/' :: "workspaces".toList ++ ['/'] := by decide
  have between : "/proxies/".toList = '/' :: "proxies".toList ++ ['/'] := by decide
  have after : "/ws".toList = '/' :: "ws".toList := by decide
  apply isPlainPath_format before between after
  simp only [List.forall_mem_cons] at fixed ⊢
  exact ⟨fixed.1, fixed.2.1, token.workspacePlain, fixed.2.2.1, token.proxyPlain, fixed.2.2.2⟩

/-! ## The scheme of websockets -/

variable {urls : Urls Url} {scheme rest : List Char}

theorem replace_http (rest : List Char) :
    replace httpScheme wsScheme (httpScheme ++ rest) =
      wsScheme ++ replaceFrom httpScheme wsScheme 0 rest :=
  rfl

theorem mem_replaceFrom {character : Char} {passed : Nat} {text : List Char}
    (inside : character ∈ replaceFrom httpScheme wsScheme passed text) :
    character ∈ wsScheme ∨ character ∈ text := by
  induction text generalizing passed with
  | nil =>
      cases passed <;> cases inside
  | cons first text inductionHypothesis =>
      cases passed with
      | succ passed => exact (inductionHypothesis inside).imp_right (List.mem_cons_of_mem _)
      | zero =>
          rw [replaceFrom] at inside
          by_cases starts : startsWith httpScheme (first :: text) = true
          · rw [if_pos starts, List.mem_append] at inside
            rcases inside with other | later
            · exact Or.inl other
            · exact (inductionHypothesis later).imp_right (List.mem_cons_of_mem _)
          · rw [if_neg starts, List.mem_cons] at inside
            rcases inside with rfl | later
            · exact Or.inr List.mem_cons_self
            · exact (inductionHypothesis later).imp_right (List.mem_cons_of_mem _)

theorem replaceFrom_eq_nil_iff : replaceFrom httpScheme wsScheme 0 rest = [] ↔ rest = [] := by
  cases rest with
  | nil => exact Iff.rfl
  | cons first rest =>
      rw [replaceFrom]
      by_cases starts : startsWith httpScheme (first :: rest) = true
      · rw [if_pos starts]
        simp [wsScheme]
      · rw [if_neg starts]
        simp

/-- Of the rests, replacing leaves the one of HTTPS and no other as it is. -/
theorem replaceFrom_eq_s_iff : replaceFrom httpScheme wsScheme 0 rest = ['s'] ↔ rest = ['s'] := by
  cases rest with
  | nil => exact Iff.rfl
  | cons first rest =>
      rw [replaceFrom]
      by_cases starts : startsWith httpScheme (first :: rest) = true
      · rw [if_pos starts]
        obtain ⟨after, whole⟩ := startsWith_iff.mp starts
        rw [whole]
        simp [wsScheme, httpScheme]
      · rw [if_neg starts, List.cons.injEq, List.cons.injEq, replaceFrom_eq_nil_iff]

theorem specialSchemes_eq : specialSchemes = [['h', 't', 't', 'p'], ['h', 't', 't', 'p', 's'],
    ['w', 's'], ['w', 's', 's'], ['f', 't', 'p'], ['f', 'i', 'l', 'e']] := by
  decide

theorem isSpecial_http : isSpecial (httpScheme ++ rest) = true ↔ rest = [] ∨ rest = ['s'] := by
  have http : httpScheme = ['h', 't', 't', 'p'] := by decide
  simp [isSpecial, specialSchemes_eq, http]

theorem isSpecial_ws : isSpecial (wsScheme ++ rest) = true ↔ rest = [] ∨ rest = ['s'] := by
  have ws : wsScheme = ['w', 's'] := by decide
  simp [isSpecial, specialSchemes_eq, ws]

/-- Replacing takes no scheme from the special ones and adds none to them. -/
theorem isSpecial_replace (rest : List Char) :
    isSpecial (replace httpScheme wsScheme (httpScheme ++ rest)) =
      isSpecial (httpScheme ++ rest) := by
  rw [Bool.eq_iff_iff, replace_http, isSpecial_ws, isSpecial_http, replaceFrom_eq_nil_iff,
    replaceFrom_eq_s_iff]

theorem isScheme_replace (wellFormed : isScheme (httpScheme ++ rest) = true) :
    isScheme (replace httpScheme wsScheme (httpScheme ++ rest)) = true := by
  have http : httpScheme = ['h', 't', 't', 'p'] := by decide
  have ws : wsScheme = ['w', 's'] := by decide
  have later : forall character, character ∈ rest -> isSchemeCharacter character = true := by
    rw [http, List.cons_append, isScheme, Bool.and_eq_true, List.all_eq_true] at wellFormed
    exact fun character inside => wellFormed.2 character (by simp [inside])
  have plain : forall character, character ∈ wsScheme -> isSchemeCharacter character = true :=
    List.all_eq_true.mp (by decide)
  rw [replace_http, ws, List.cons_append, isScheme, Bool.and_eq_true, List.all_eq_true]
  refine ⟨by decide, fun character inside => ?_⟩
  rw [List.singleton_append, List.mem_cons] at inside
  rcases inside with rfl | inside
  · decide
  · rcases mem_replaceFrom inside with other | left
    · exact plain character other
    · exact later character left

theorem defaultPort_replace (lawful : urls.Lawful) (rest : List Char) :
    urls.defaultPort (replace httpScheme wsScheme (httpScheme ++ rest)) =
      urls.defaultPort (httpScheme ++ rest) := by
  cases special : isSpecial (httpScheme ++ rest) with
  | false =>
      rw [lawful.portless _ special, lawful.portless _ ((isSpecial_replace rest).trans special)]
  | true =>
      rcases isSpecial_http.mp special with rfl | rfl
      · exact lawful.portOfWs
      · exact lawful.portOfWss

/-! ## The endpoint -/

/-- Any URL takes the scheme of websockets instead of the one of HTTP. -/
theorem setScheme_replace (lawful : urls.Lawful) (url : Url)
    (same : urls.scheme url = httpScheme ++ rest) :
    Exists fun changed =>
      urls.setScheme url (replace httpScheme wsScheme (urls.scheme url)) = some changed ∧
        urls.Renamed url (replace httpScheme wsScheme (urls.scheme url)) changed := by
  have special : isSpecial (replace httpScheme wsScheme (urls.scheme url)) =
      isSpecial (urls.scheme url) := by
    rw [same]
    exact isSpecial_replace rest
  apply lawful.setScheme_eq_some url _ _ special
  · rw [same, replace_http]
    intro file
    cases file
  · rw [special]
    intro old
    apply lawful.hasHost url old
    rw [same]
    exact nofun
  · rw [same]
    exact isScheme_replace (same ▸ lawful.wellFormed url)

/-- Its port is not touched by that. -/
theorem writtenPort_replace (lawful : urls.Lawful) (url : Url)
    (same : urls.scheme url = httpScheme ++ rest) :
    urls.writtenPort (replace httpScheme wsScheme (urls.scheme url)) (urls.port url) =
      urls.port url := by
  unfold Urls.writtenPort
  rw [same, defaultPort_replace lawful, ← same]
  split
  · next written =>
      rcases lawful.unwritten url with none | different
      · exact none.symm
      · exact absurd written different
  · rfl

/-- Where the endpoint is, given the base of the API. -/
structure PointsTo (urls : Urls Url) (apiBase : Url) (token : ProxyToken) (endpoint : Url) :
    Prop where
  username : urls.username endpoint = urls.username apiBase
  password : urls.password endpoint = urls.password apiBase
  host : urls.host endpoint = urls.host apiBase
  port : urls.port endpoint = urls.port apiBase
  query : urls.query endpoint = none
  fragment : urls.fragment endpoint = none
  path : Exists fun kept => urls.Keeps apiBase kept ∧
    urls.path endpoint = kept ++ endpointPath token
  notHttp : startsWith httpScheme (urls.scheme endpoint) = false
  scheme : startsWith httpScheme (urls.scheme apiBase) = false ->
    urls.scheme endpoint = urls.scheme apiBase
  http : urls.scheme apiBase = "http".toList -> urls.scheme endpoint = "ws".toList
  https : urls.scheme apiBase = "https".toList -> urls.scheme endpoint = "wss".toList

variable {apiBase joined changed : Url} {token : ProxyToken}

/-- A scheme of HTTP has been replaced. -/
theorem pointsTo_of_renamed (lawful : urls.Lawful)
    (path : urls.Joined apiBase (endpointPath token) joined)
    (starts : urls.scheme joined = httpScheme ++ rest)
    (renamed : urls.Renamed joined (replace httpScheme wsScheme (urls.scheme joined)) changed) :
    PointsTo urls apiBase token changed where
  username := renamed.username.trans path.username
  password := renamed.password.trans path.password
  host := renamed.host.trans path.host
  port := (renamed.port.trans (writtenPort_replace lawful joined starts)).trans path.port
  query := renamed.query.trans path.query
  fragment := renamed.fragment.trans path.fragment
  path := renamed.path ▸ path.path
  notHttp := by
    rw [renamed.scheme, starts, replace_http]
    rfl
  scheme other := by
    rw [← path.scheme, starts, startsWith_iff.mpr ⟨rest, rfl⟩] at other
    cases other
  http given := by
    rw [renamed.scheme, path.scheme, given]
    decide
  https given := by
    rw [renamed.scheme, path.scheme, given]
    decide

/-- Any other scheme stays. -/
theorem pointsTo_of_joined (path : urls.Joined apiBase (endpointPath token) joined)
    (other : startsWith httpScheme (urls.scheme joined) = false) :
    PointsTo urls apiBase token joined where
  username := path.username
  password := path.password
  host := path.host
  port := path.port
  query := path.query
  fragment := path.fragment
  path := path.path
  notHttp := other
  scheme _ := path.scheme
  http given := by
    rw [path.scheme, given] at other
    exact absurd other (by decide)
  https given := by
    rw [path.scheme, given] at other
    exact absurd other (by decide)

/-- When the path has been joined to the base, the service has its endpoint. -/
theorem endpoint_of_join (lawful : urls.Lawful)
    (some : urls.join apiBase (endpointPath token) = some joined) :
    Exists fun url => endpoint urls apiBase token = .returned url ∧
      PointsTo urls apiBase token url := by
  have path := lawful.joined _ _ _ (endpointPath_plain token) some
  unfold endpoint
  rw [some]
  dsimp only
  by_cases http : startsWith httpScheme (urls.scheme joined) = true
  · rw [if_pos http]
    obtain ⟨rest, starts⟩ := startsWith_iff.mp http
    obtain ⟨changed, set, renamed⟩ := setScheme_replace lawful joined starts
    rw [set]
    exact ⟨changed, rfl, pointsTo_of_renamed lawful path starts renamed⟩
  · rw [if_neg http]
    exact ⟨joined, rfl, pointsTo_of_joined path (Bool.eq_false_iff.mpr http)⟩

/-- The service has an endpoint unless no path can be joined to the base, and
it differs from the base in its path and, if that is HTTP, in its scheme. -/
theorem endpoint_points_to (urls : Urls Url) (lawful : urls.Lawful) (apiBase : Url)
    (token : ProxyToken) :
    (endpoint urls apiBase token = .panicked ↔ urls.cannotBeABase apiBase = true) ∧
      forall url, endpoint urls apiBase token = .returned url ->
        PointsTo urls apiBase token url := by
  have unjoined := lawful.join_eq_none_iff apiBase _ (endpointPath_plain token)
  cases join : urls.join apiBase (endpointPath token) with
  | none =>
      have panicked : endpoint urls apiBase token = .panicked := by
        unfold endpoint
        rw [join]
      rw [panicked, ← unjoined, join]
      exact ⟨by simp, nofun⟩
  | some joined =>
      obtain ⟨url, returned, pointsTo⟩ := endpoint_of_join lawful join
      rw [returned, ← unjoined, join]
      refine ⟨by simp, fun other same => ?_⟩
      cases same
      exact pointsTo

/-- "https://example.com/custom?v=1" -/
def customBase : Site :=
  ⟨"https".toList, "example.com", "/custom".toList, some "v=1", by decide, by decide⟩

def plainToken : ProxyToken :=
  ⟨"AAAAAAAAAAAAAAAAAAAAAA".toList, "proxy".toList, by decide, by decide⟩

theorem endpoint_points_to_custom :
    PointsTo sites customBase plainToken
      ⟨"wss".toList, "example.com", endpointPath plainToken, none, by decide, by decide⟩ :=
  (endpoint_points_to sites sites_lawful customBase plainToken).2 _ rfl

end Service
end Fpd
