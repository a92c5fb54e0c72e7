import Fpd.Service.Bindings
import Mathlib.Data.List.AList
import Mathlib.Data.List.Induction

namespace Fpd
namespace Service

open Bindings

/-!
# `ProxyService::init`

The service keeps its data sources by name and its provider modules by
provider type.  A map is filled from a list, and of several entries with one
key the last one stays.
-/

/-- A `HashMap` with string keys. -/
abbrev HashMap (Entry : Type) := AList fun _ : String => Entry

namespace HashMap

/-- `collect` into a map. -/
def ofPairs {Entry : Type} (pairs : List (String × Entry)) : HashMap Entry :=
  pairs.foldl (fun map pair => map.insert pair.1 pair.2) ∅

def values {Entry : Type} (map : HashMap Entry) : List Entry :=
  map.entries.map Sigma.snd

variable {Entry : Type} {key : String} {entry : Entry}

/-- Filling a map keeps what was in it and adds every key of the list. -/
theorem mem_foldl_insert (pairs : List (String × Entry)) (map : HashMap Entry)
    (present : key ∈ pairs.map Prod.fst ∨ key ∈ map) :
    key ∈ pairs.foldl (fun map pair => map.insert pair.1 pair.2) map := by
  induction pairs generalizing map with
  | nil =>
      rcases present with impossible | old
      · cases impossible
      · exact old
  | cons pair pairs inductionHypothesis =>
      apply inductionHypothesis
      rw [List.map_cons, List.mem_cons] at present
      rw [AList.mem_insert]
      tauto

/-- What a filled map holds was in it or comes from the list. -/
theorem lookup_foldl_insert (pairs : List (String × Entry)) (map : HashMap Entry)
    (found : (pairs.foldl (fun map pair => map.insert pair.1 pair.2) map).lookup key = some entry) :
    (key, entry) ∈ pairs ∨ map.lookup key = some entry := by
  induction pairs generalizing map with
  | nil => exact Or.inr found
  | cons pair pairs inductionHypothesis =>
      rcases inductionHypothesis _ found with later | earlier
      · exact Or.inl (List.mem_cons_of_mem _ later)
      · by_cases same : key = pair.1
        · subst same
          rw [AList.lookup_insert, Option.some.injEq] at earlier
          subst earlier
          exact Or.inl List.mem_cons_self
        · rw [AList.lookup_insert_ne same] at earlier
          exact Or.inr earlier

theorem mem_ofPairs (pairs : List (String × Entry)) (present : key ∈ pairs.map Prod.fst) :
    key ∈ ofPairs pairs :=
  mem_foldl_insert pairs ∅ (Or.inl present)

theorem lookup_ofPairs {pairs : List (String × Entry)}
    (found : (ofPairs pairs).lookup key = some entry) : (key, entry) ∈ pairs := by
  rcases lookup_foldl_insert pairs ∅ found with member | absent
  · exact member
  · rw [AList.lookup_empty] at absent
    cases absent

/-- Of several entries with one key the last one stays. -/
theorem lookup_ofPairs_eq (pairs : List (String × Entry)) (key : String) :
    (ofPairs pairs).lookup key =
      (pairs.reverse.find? fun pair => decide (pair.1 = key)).map Prod.snd := by
  induction pairs using List.reverseRecOn with
  | nil => exact AList.lookup_empty key
  | append_singleton pairs pair inductionHypothesis =>
      have filled : ofPairs (pairs ++ [pair]) = (ofPairs pairs).insert pair.1 pair.2 := by
        rw [ofPairs, List.foldl_append]
        rfl
      rw [filled, List.reverse_append, List.reverse_singleton, List.singleton_append,
        List.find?_cons]
      by_cases same : pair.1 = key
      · rw [same, AList.lookup_insert, decide_eq_true rfl]
        rfl
      · rw [AList.lookup_insert_ne (Ne.symm same), inductionHypothesis, decide_eq_false same]

theorem mem_values {map : HashMap Entry} (found : map.lookup key = some entry) :
    entry ∈ map.values :=
  List.mem_map.mpr ⟨⟨key, entry⟩, AList.mem_lookup_iff.mp found, rfl⟩

theorem exists_lookup_of_mem_values {map : HashMap Entry} (member : entry ∈ map.values) :
    Exists fun key => map.lookup key = some entry := by
  rcases List.mem_map.mp member with ⟨⟨key, value⟩, inside, rfl⟩
  exact ⟨key, AList.mem_lookup_iff.mpr inside⟩

/-- Entries that carry their key list the keys. -/
theorem map_values {map : HashMap Entry} {view : Entry -> String}
    (carries : forall key entry, map.lookup key = some entry -> view entry = key) :
    map.values.map view = map.keys := by
  rw [values, List.map_map]
  apply List.map_congr_left
  rintro ⟨key, entry⟩ inside
  exact carries key entry (AList.mem_lookup_iff.mpr inside)

end HashMap

/-- A span of time in seconds.  The roundings of `Duration` and `f32` are left
out. -/
abbrev Duration := Rat

structure ProxyDataSource where
  name : Name
  providerType : String
  config : Map
  description : Option String
  deriving DecidableEq, Repr

abbrev WasmModules := HashMap (Except Error Runtime)

structure ProxyService where
  dataSources : HashMap ProxyDataSource
  wasmModules : WasmModules
  maxRetries : Nat
  listenAddress : Option String
  statusCheckInterval : Duration

/-- The files of the wasm directory and the compiler of the runtime, neither
of which is part of the daemon. -/
structure WasmDir where
  read : String -> Except String Bytes
  compile : Bytes -> Except String Runtime

/-- One module of `load_wasm_modules`. -/
def loadWasmModule (wasmDir : WasmDir) (providerType : String) : Except Error Runtime :=
  match wasmDir.read (providerType ++ ".wasm") with
  | .error err => .error (.invocation ("Error reading wasm file: " ++ err))
  | .ok wasmModule =>
      (wasmDir.compile wasmModule).mapError fun err =>
        .invocation ("Error compiling wasm module: " ++ err)

def loadWasmModules (wasmDir : WasmDir) (providerTypes : List String) : WasmModules :=
  .ofPairs (providerTypes.zip (providerTypes.map (loadWasmModule wasmDir)))

def ProxyService.init (wasmDir : WasmDir) (dataSources : List ProxyDataSource) (maxRetries : Nat)
    (listenAddress : Option String) (statusCheckInterval : Duration) : ProxyService :=
  let dataSources :=
    HashMap.ofPairs (dataSources.map fun dataSource => (dataSource.name, dataSource))
  let providerTypes := dataSources.values.map ProxyDataSource.providerType
  { dataSources := dataSources
    wasmModules := loadWasmModules wasmDir providerTypes
    maxRetries := maxRetries
    listenAddress := listenAddress
    statusCheckInterval := statusCheckInterval }

/-! ## What `init` establishes -/

variable {wasmDir : WasmDir} {dataSources : List ProxyDataSource} {maxRetries : Nat}
  {listenAddress : Option String} {statusCheckInterval : Duration}

theorem zip_loadWasmModule (providerTypes : List String) :
    providerTypes.zip (providerTypes.map (loadWasmModule wasmDir)) =
      providerTypes.map fun providerType =>
        (providerType, loadWasmModule wasmDir providerType) := by
  have both := @List.zip_map' _ _ _ id (loadWasmModule wasmDir) providerTypes
  rw [List.map_id] at both
  exact both

theorem loadWasmModules_lookup {providerTypes : List String} {providerType : String}
    (present : providerType ∈ providerTypes) :
    (loadWasmModules wasmDir providerTypes).lookup providerType =
      some (loadWasmModule wasmDir providerType) := by
  have member : providerType ∈ loadWasmModules wasmDir providerTypes := by
    apply HashMap.mem_ofPairs
    rw [List.map_fst_zip (by rw [List.length_map])]
    exact present
  rcases Option.isSome_iff_exists.mp (AList.lookup_isSome.mpr member) with ⟨loaded, found⟩
  have pair := HashMap.lookup_ofPairs found
  rw [zip_loadWasmModule, List.mem_map] at pair
  rcases pair with ⟨listed, _, same⟩
  rw [Prod.mk.injEq] at same
  rw [found, ← same.2, same.1]

/-- Every data source of a service has the module of its provider type, loaded
or with the error that kept it from loading. -/
theorem init_wasmModules {name : Name} {dataSource : ProxyDataSource}
    (found : (ProxyService.init wasmDir dataSources maxRetries listenAddress
      statusCheckInterval).dataSources.lookup name = some dataSource) :
    (ProxyService.init wasmDir dataSources maxRetries listenAddress
      statusCheckInterval).wasmModules.lookup dataSource.providerType =
        some (loadWasmModule wasmDir dataSource.providerType) :=
  loadWasmModules_lookup (List.mem_map_of_mem (HashMap.mem_values found))

end Service
end Fpd
