import Mathlib.Data.List.Basic

namespace Fpd
namespace Http

/-!
# URLs

What is used of a library for URLs, and what is documented of it.  Some schemes
are special: their URLs have a host, and a port of their own that is not written
down.  A path from the root takes the place of the path, the query and the
fragment of the URL that it is joined to.  A scheme can take the place of another
one if both are special or neither is.
-/

def fileScheme : List Char := "file".toList

def specialSchemes : List (List Char) :=
  ["http".toList, "https".toList, "ws".toList, "wss".toList, "ftp".toList, fileScheme]

def isSpecial (scheme : List Char) : Bool :=
  decide (scheme ∈ specialSchemes)

/-- The characters of a scheme after the first one. -/
def isSchemeCharacter (character : Char) : Bool :=
  character.isLower || character.isDigit || character = '+' || character = '-' || character = '.'

/-- A scheme in lower case. -/
def isScheme : List Char -> Bool
  | [] => false
  | first :: rest => first.isLower && rest.all isSchemeCharacter

/-- The characters of URL-safe encodings, which stand for themselves. -/
def isPlainCharacter (character : Char) : Bool :=
  character.isAlphanum || character = '-' || character = '_'

/-- Neither empty nor dots nor the letter of a drive. -/
def IsPlainSegment (segment : List Char) : Prop :=
  segment ≠ [] ∧ segment.all isPlainCharacter = true

instance (segment : List Char) : Decidable (IsPlainSegment segment) :=
  inferInstanceAs (Decidable (_ ∧ _))

/-- A path from the root with nothing in it to encode or to take away. -/
def IsPlainPath (text : List Char) : Prop :=
  Exists fun segments : List (List Char) => segments ≠ [] ∧
    (forall segment, segment ∈ segments -> IsPlainSegment segment) ∧
      text = segments.flatMap ('/' :: ·)

/-- The functions of the library.  Those that can fail return nothing then. -/
structure Urls (Url : Type) where
  scheme : Url -> List Char
  username : Url -> String
  password : Url -> Option String
  host : Url -> Option String
  port : Url -> Option Nat
  path : Url -> List Char
  query : Url -> Option String
  fragment : Url -> Option String
  cannotBeABase : Url -> Bool
  defaultPort : List Char -> Option Nat
  join : Url -> List Char -> Option Url
  setScheme : Url -> List Char -> Option Url

namespace Urls

variable {Url : Type}

/-- What is left in front of a path from the root: nothing, or the letter of the
drive where the URL of a file was. -/
def Keeps (urls : Urls Url) (base : Url) (kept : List Char) : Prop :=
  kept = [] ∨ urls.scheme base = fileScheme ∧ kept <+: urls.path base ∧
    Exists fun letter => letter.isAlpha = true ∧ kept = ['/', letter, ':']

/-- A path from the root has been joined to a URL. -/
structure Joined (urls : Urls Url) (base : Url) (text : List Char) (joined : Url) : Prop where
  scheme : urls.scheme joined = urls.scheme base
  username : urls.username joined = urls.username base
  password : urls.password joined = urls.password base
  host : urls.host joined = urls.host base
  port : urls.port joined = urls.port base
  path : Exists fun kept => urls.Keeps base kept ∧ urls.path joined = kept ++ text
  query : urls.query joined = none
  fragment : urls.fragment joined = none

/-- The port is not written down if the new scheme has it anyway. -/
def writtenPort (urls : Urls Url) (scheme : List Char) (port : Option Nat) : Option Nat :=
  if port = urls.defaultPort scheme then none else port

/-- A URL has got another scheme. -/
structure Renamed (urls : Urls Url) (url : Url) (other : List Char) (changed : Url) : Prop where
  scheme : urls.scheme changed = other
  username : urls.username changed = urls.username url
  password : urls.password changed = urls.password url
  host : urls.host changed = urls.host url
  port : urls.port changed = urls.writtenPort other (urls.port url)
  path : urls.path changed = urls.path url
  query : urls.query changed = urls.query url
  fragment : urls.fragment changed = urls.fragment url

/-- What is documented of the library, as far as it is relied on. -/
structure Lawful (urls : Urls Url) : Prop where
  wellFormed : forall url, isScheme (urls.scheme url) = true
  hasHost : forall url, isSpecial (urls.scheme url) = true -> urls.scheme url ≠ fileScheme ->
    (urls.host url).isSome = true
  unwritten : forall url, urls.port url = none ∨
    urls.port url ≠ urls.defaultPort (urls.scheme url)
  portOfWs : urls.defaultPort "ws".toList = urls.defaultPort "http".toList
  portOfWss : urls.defaultPort "wss".toList = urls.defaultPort "https".toList
  portless : forall scheme, isSpecial scheme = false -> urls.defaultPort scheme = none
  join_eq_none_iff : forall base text, IsPlainPath text ->
    (urls.join base text = none ↔ urls.cannotBeABase base = true)
  joined : forall base text joined, IsPlainPath text -> urls.join base text = some joined ->
    urls.Joined base text joined
  setScheme_eq_some : forall url scheme, isScheme scheme = true ->
    isSpecial scheme = isSpecial (urls.scheme url) -> scheme ≠ fileScheme ->
    (isSpecial scheme = true -> (urls.host url).isSome = true) ->
    Exists fun changed => urls.setScheme url scheme = some changed ∧
      urls.Renamed url scheme changed

end Urls

/-! ## Sites -/

theorem isScheme_of_isSpecial {scheme : List Char} (special : isSpecial scheme = true) :
    isScheme scheme = true := by
  have wellFormed : specialSchemes.all isScheme = true := by decide
  exact List.all_eq_true.mp wellFormed scheme (of_decide_eq_true special)

/-- A URL of a host alone, with the port that its scheme has. -/
structure Site where
  scheme : List Char
  host : String
  path : List Char
  query : Option String
  special : isSpecial scheme = true
  notFile : scheme ≠ fileScheme

/-- The library, for sites. -/
def sites : Urls Site where
  scheme := Site.scheme
  username _ := ""
  password _ := none
  host site := some site.host
  port _ := none
  path := Site.path
  query := Site.query
  fragment _ := none
  cannotBeABase _ := false
  defaultPort scheme :=
    if scheme ∈ ["http".toList, "ws".toList] then some 80
    else if scheme ∈ ["https".toList, "wss".toList] then some 443
    else if scheme = "ftp".toList then some 21
    else none
  join site text := some { site with path := text, query := none }
  setScheme site scheme :=
    if accepted : isSpecial scheme = true ∧ scheme ≠ fileScheme then
      some { site with scheme := scheme, special := accepted.1, notFile := accepted.2 }
    else none

theorem sites_lawful : sites.Lawful where
  wellFormed site := isScheme_of_isSpecial site.special
  hasHost _ _ _ := rfl
  unwritten _ := Or.inl rfl
  portOfWs := by decide
  portOfWss := by decide
  portless scheme plain := by
    have absent (other : List Char) (special : isSpecial other = true) : scheme ≠ other := by
      rintro rfl
      rw [plain] at special
      cases special
    simp only [sites, List.mem_cons, List.not_mem_nil, or_false]
    rw [if_neg (not_or.mpr ⟨absent _ (by decide), absent _ (by decide)⟩),
      if_neg (not_or.mpr ⟨absent _ (by decide), absent _ (by decide)⟩),
      if_neg (absent _ (by decide))]
  join_eq_none_iff _ _ _ := ⟨nofun, nofun⟩
  joined base text joined _ some := by
    cases some
    exact ⟨rfl, rfl, rfl, rfl, rfl, ⟨[], Or.inl rfl, rfl⟩, rfl, rfl⟩
  setScheme_eq_some site scheme _ same notFile _ := by
    refine ⟨_, dif_pos ⟨same.trans site.special, notFile⟩, rfl, rfl, rfl, rfl, ?_, rfl, rfl, rfl⟩
    unfold Urls.writtenPort
    split <;> rfl

end Http
end Fpd
