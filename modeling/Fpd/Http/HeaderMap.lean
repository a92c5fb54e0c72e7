import Fpd.Unix.Overwriting
import Mathlib.Data.List.AList

namespace Fpd
namespace Http

open Overwriting

/-!
# Header maps

The part of `http::HeaderMap` that requests are built with.  A name may have
several values, which are kept in the order they came in.  Going through a map
gives every single one of them, but a value that is inserted takes the place of
all that its name had before.
-/

/-- A name in lower case. -/
abbrev HeaderName := String

abbrev HeaderValue := String

/-- `HeaderValue::to_str`: a value that is not all visible ASCII is no text. -/
def HeaderValue.toStr (value : HeaderValue) : Option String :=
  if value.toList.all fun character => (decide (' ' ≤ character) && decide (character ≤ '~')) ||
      decide (character = '\t')
  then some value
  else none

/-- The values of one name, of which there is at least one. -/
structure Bucket where
  value : HeaderValue
  extra : List HeaderValue
  deriving DecidableEq, Repr

def Bucket.values (bucket : Bucket) : List HeaderValue :=
  bucket.value :: bucket.extra

/-- No order is promised between the names. -/
abbrev HeaderMap := AList fun _ : HeaderName => Bucket

namespace HeaderMap

/-- `HeaderMap::iter` -/
def iter (headers : HeaderMap) : List (HeaderName × HeaderValue) :=
  headers.entries.flatMap fun entry => entry.2.values.map fun value => (entry.1, value)

/-- `HeaderMap::get_all` -/
def getAll (headers : HeaderMap) (name : HeaderName) : List HeaderValue :=
  (headers.lookup name).elim [] Bucket.values

/-- `HeaderMap::get`: the first value. -/
def get (headers : HeaderMap) (name : HeaderName) : Option HeaderValue :=
  (headers.lookup name).map Bucket.value

/-- `HeaderMap::insert` -/
def insert (headers : HeaderMap) (name : HeaderName) (value : HeaderValue) : HeaderMap :=
  AList.insert name ⟨value, []⟩ headers

/-- `HeaderMap::append` -/
def append (headers : HeaderMap) (name : HeaderName) (value : HeaderValue) : HeaderMap :=
  match headers.lookup name with
  | none => headers.insert name value
  | some bucket => AList.insert name { bucket with extra := bucket.extra ++ [value] } headers

/-- Inserting fields one after another. -/
def insertAll (headers : HeaderMap) (fields : List (HeaderName × HeaderValue)) : HeaderMap :=
  fields.foldl (fun headers field => headers.insert field.1 field.2) headers

theorem getAll_append (headers : HeaderMap) (name : HeaderName) (value : HeaderValue) :
    (headers.append name value).getAll name = headers.getAll name ++ [value] := by
  unfold append
  cases found : headers.lookup name with
  | none =>
      simp only [insert, getAll, AList.lookup_insert, found]
      rfl
  | some bucket =>
      simp only [getAll, AList.lookup_insert, found]
      rfl

/-- The fields of a name are its values. -/
theorem filter_iter (headers : HeaderMap) (name : HeaderName) :
    (headers.iter.filter fun field => decide (field.1 = name)).map Prod.snd =
      headers.getAll name := by
  rcases headers with ⟨entries, nodup⟩
  have own (entry : Sigma fun _ : HeaderName => Bucket) :
      ((entry.2.values.map fun value => (entry.1, value)).filter
        fun field => decide (field.1 = name)).map Prod.snd =
          if entry.1 = name then entry.2.values else [] := by
    by_cases same : entry.1 = name <;> simp [List.filter_map, Function.comp_def, same]
  simp only [iter, getAll, AList.lookup]
  induction entries with
  | nil => rfl
  | cons entry rest inductionHypothesis =>
      rw [List.nodupKeys_cons] at nodup
      rw [List.flatMap_cons, List.filter_append, List.map_append, own,
        inductionHypothesis nodup.2]
      by_cases same : entry.1 = name
      · subst same
        have absent : List.dlookup entry.1 rest = none := List.dlookup_eq_none.mpr nodup.1
        rw [if_pos rfl, List.dlookup_cons_eq, absent]
        exact List.append_nil _
      · rw [if_neg same, List.dlookup_cons_ne _ _ (Ne.symm same)]
        rfl

/-! ## Inserting -/

/-- What a field that is inserted leaves at its name. -/
def written (field : HeaderName × HeaderValue) : Option (HeaderName × Bucket) :=
  some (field.1, ⟨field.2, []⟩)

theorem lookup_insertAll (headers : HeaderMap) (fields : List (HeaderName × HeaderValue)) :
    (fun name => (headers.insertAll fields).lookup name) =
      replay written (fun name => headers.lookup name) fields := by
  induction fields generalizing headers with
  | nil => rfl
  | cons field fields inductionHypothesis =>
      have first : (fun name => (headers.insert field.1 field.2).lookup name) =
          put written (fun name => headers.lookup name) field := by
        rw [@put_of_eq_some _ _ _ written field field.1 ⟨field.2, []⟩ _ _ rfl]
        funext name
        by_cases same : name = field.1
        · subst same
          rw [Function.update_self, insert, AList.lookup_insert]
        · rw [Function.update_of_ne same, insert, AList.lookup_insert_ne same]
      refine (inductionHypothesis (headers.insert field.1 field.2)).trans ?_
      rw [first]
      rfl

/-- Of the values that a name has, only the last one stays. -/
theorem getAll_insertAll_iter (headers : HeaderMap) (name : HeaderName) :
    (insertAll ∅ headers.iter).getAll name = (headers.getAll name).getLast?.toList := by
  have found := congrFun (lookup_insertAll ∅ headers.iter) name
  rw [replay_eq_getLast? (fun field => decide (field.1 = name))
    (fun field => ⟨field.2, []⟩)] at found
  · simp only [AList.lookup_empty, Option.or_none] at found
    rw [getAll, found, ← filter_iter, List.getLast?_map]
    cases (headers.iter.filter fun field => decide (field.1 = name)).getLast? <;> rfl
  · intro field _
    simp [written]
  · intro field bucket same
    simp only [written, Option.some.injEq, Prod.mk.injEq] at same
    exact same.2

end HeaderMap
end Http
end Fpd
