import Mathlib.Data.List.Basic

namespace Fpd
namespace Unix

/-!
# Paths on Unix

A path is a string of bytes.  What it names is read off its components: the
parts between separators, without the empty ones and without those that stand
for the directory itself.  The name of a file is its last component, unless that
leads elsewhere, and a name is taken apart at its last dot.
-/

abbrev OsStr := List UInt8

/-- The bytes of a text that is written in ASCII. -/
def ascii (text : String) : OsStr :=
  text.toList.map fun character => UInt8.ofNat character.toNat

def separator : UInt8 := 47

def dot : UInt8 := 46

inductive Component
  | rootDir
  | curDir
  | parentDir
  | normal (name : OsStr)
  deriving DecidableEq, Repr

namespace Path

variable {path name file stem : OsStr}

def isAbsolute (path : OsStr) : Bool :=
  decide (path.head? = some separator)

/-- What stands between two separators.  A dot there leads nowhere. -/
def component (name : OsStr) : Option Component :=
  if name = [] ∨ name = [dot] then none
  else if name = [dot, dot] then some .parentDir
  else some (.normal name)

/-- The name of a file in a directory. -/
def PlainName (name : OsStr) : Prop :=
  separator ∉ name ∧ component name = some (.normal name)

instance (name : OsStr) : Decidable (PlainName name) :=
  inferInstanceAs (Decidable (_ ∧ _))

/-- `Path::components`.  A leading dot is kept as a component. -/
def components (path : OsStr) : List Component :=
  let names := path.splitOn separator
  (if isAbsolute path then [.rootDir]
    else if names.head? = some [dot] then [.curDir] else []) ++ names.filterMap component

/-- `Path::file_name` -/
def fileName (path : OsStr) : Option OsStr :=
  match (components path).getLast? with
  | some (.normal name) => some name
  | _ => none

/-- What stands before and after the last dot. -/
def splitAtLastDot : OsStr -> Option (OsStr × OsStr)
  | [] => none
  | byte :: rest =>
      match splitAtLastDot rest with
      | some (before, after) => some (byte :: before, after)
      | none => if byte = dot then some ([], rest) else none

/-- `rsplit_file_at_dot`: a name that starts with its only dot has no extension,
and one without a dot has nothing but an extension. -/
def rsplitFileAtDot (file : OsStr) : Option OsStr × Option OsStr :=
  if file = [dot, dot] then (some file, none)
  else
    match splitAtLastDot file with
    | none => (none, some file)
    | some ([], _) => (some file, none)
    | some (before, after) => (some before, some after)

/-- `Path::file_stem` -/
def fileStem (path : OsStr) : Option OsStr :=
  (fileName path).bind fun file => (rsplitFileAtDot file).1.or (rsplitFileAtDot file).2

/-- `Path::parent`, by its components. -/
def parent (path : OsStr) : Option (List Component) :=
  match (components path).getLast? with
  | none => none
  | some .rootDir => none
  | some _ => some (components path).dropLast

/-- `Path::extension` -/
def extension (path : OsStr) : Option OsStr :=
  (fileName path).bind fun file => (rsplitFileAtDot file).1.bind fun _ => (rsplitFileAtDot file).2

/-- `PathBuf::push`: an absolute path takes the place of what was there. -/
def push (path name : OsStr) : OsStr :=
  if isAbsolute name then name
  else if path = [] ∨ path.getLast? = some separator then path ++ name
  else path ++ separator :: name

/-! ## The name of a file -/

theorem separator_not_mem_of_mem_splitOn (inside : name ∈ path.splitOn separator) :
    separator ∉ name := by
  induction path generalizing name with
  | nil => simp_all
  | cons byte rest inductionHypothesis =>
      rw [List.splitOn_cons_eq_if_modifyHead] at inside
      by_cases separates : (byte == separator) = true
      · rw [if_pos separates, List.mem_cons] at inside
        rcases inside with rfl | later
        · exact List.not_mem_nil
        · exact inductionHypothesis later
      · rw [if_neg separates] at inside
        cases names : rest.splitOn separator with
        | nil => exact absurd names (List.splitOn_ne_nil _ _)
        | cons first others =>
            rw [names] at inside inductionHypothesis
            rw [List.modifyHead_cons, List.mem_cons] at inside
            rcases inside with rfl | later
            · rw [List.mem_cons, not_or]
              refine ⟨fun same => separates (by simp [same]), ?_⟩
              exact inductionHypothesis List.mem_cons_self
            · exact inductionHypothesis (List.mem_cons_of_mem _ later)

theorem component_eq_normal {piece : OsStr} (kind : component piece = some (.normal name)) :
    piece = name := by
  unfold component at kind
  split at kind
  · cases kind
  · split at kind
    · cases kind
    · cases kind
      rfl

theorem plainName_of_mem_components (member : .normal name ∈ components path) :
    PlainName name := by
  rw [components, List.mem_append, List.mem_filterMap] at member
  rcases member with first | ⟨piece, inside, kind⟩
  · split at first
    · simp at first
    · split at first <;> simp at first
  · have same := component_eq_normal kind
    subst same
    exact ⟨separator_not_mem_of_mem_splitOn inside, kind⟩

theorem separator_not_mem_of_fileName (found : fileName path = some file) : separator ∉ file := by
  unfold fileName at found
  cases last : (components path).getLast? with
  | none => simp only [last, reduceCtorEq] at found
  | some lastComponent =>
      cases lastComponent with
      | normal name =>
          simp only [last, Option.some.injEq] at found
          subst found
          exact (plainName_of_mem_components (List.mem_of_getLast? last)).1
      | _ => simp only [last, reduceCtorEq] at found

/-! ## The parts of a name -/

theorem eq_append_of_splitAtLastDot {before after : OsStr}
    (split : splitAtLastDot file = some (before, after)) : file = before ++ dot :: after := by
  induction file generalizing before with
  | nil => cases split
  | cons byte rest inductionHypothesis =>
      rw [splitAtLastDot] at split
      cases later : splitAtLastDot rest with
      | some parts =>
          simp only [later, Option.some.injEq, Prod.mk.injEq] at split
          obtain ⟨rfl, rfl⟩ := split
          rw [List.cons_append, ← inductionHypothesis later]
      | none =>
          simp only [later] at split
          split at split
          · next isDot =>
              cases split
              rw [isDot, List.nil_append]
          · cases split

/-- The name goes by what stands before its last dot, or by itself. -/
theorem fileStem_eq_of_fileName (found : fileName path = some file) :
    fileStem path = some file ∨
      Exists fun before => Exists fun after =>
        file = before ++ dot :: after ∧ fileStem path = some before := by
  simp only [fileStem, found, Option.bind_some, rsplitFileAtDot]
  split
  · exact Or.inl rfl
  · split
    · exact Or.inl rfl
    · exact Or.inl rfl
    · next before after _ split =>
        exact Or.inr ⟨before, after, eq_append_of_splitAtLastDot split, rfl⟩

theorem separator_not_mem_of_fileStem (found : fileStem path = some stem) : separator ∉ stem := by
  cases named : fileName path with
  | none => simp [fileStem, named] at found
  | some file =>
      have inFile : separator ∉ file := separator_not_mem_of_fileName named
      rcases fileStem_eq_of_fileName named with whole | ⟨before, after, split, start⟩
      · rw [found, Option.some.injEq] at whole
        rwa [whole]
      · rw [found, Option.some.injEq] at start
        rw [start]
        intro inside
        exact inFile (by rw [split]; exact List.mem_append_left _ inside)

example : fileStem (ascii "bin/loki.tar.wasm/.") = some (ascii "loki.tar") := by decide

example : extension (ascii "bin/.wasm") = none := by decide

/-- A name with an extension also has a stem. -/
theorem fileStem_isSome_of_extension (found : (extension path).isSome) :
    (fileStem path).isSome := by
  unfold extension at found
  unfold fileStem
  cases named : fileName path with
  | none => simp [named] at found
  | some file =>
      rw [named] at found
      cases first : (rsplitFileAtDot file).1 with
      | none => simp [first] at found
      | some before => simp [first]

/-- A name with an extension is the stem and the extension, with the last dot
between them. -/
theorem exists_stem_of_extension {ext : OsStr} (found : extension path = some ext) :
    Exists fun stem =>
      fileStem path = some stem ∧ fileName path = some (stem ++ dot :: ext) := by
  unfold extension at found
  cases named : fileName path with
  | none => simp [named] at found
  | some file =>
      simp only [named, Option.bind_some, rsplitFileAtDot] at found
      simp only [fileStem, named, Option.bind_some, rsplitFileAtDot]
      by_cases dots : file = [dot, dot]
      · simp [dots] at found
      · rw [if_neg dots] at found ⊢
        cases parts : splitAtLastDot file with
        | none => simp [parts] at found
        | some both =>
            rcases both with ⟨_ | ⟨byte, before⟩, after⟩
            · simp [parts] at found
            · simp only [parts, Option.bind_some, Option.some.injEq] at found
              subst found
              exact ⟨byte :: before, rfl, by rw [eq_append_of_splitAtLastDot parts]⟩

/-! ## The files of a directory -/

theorem isAbsolute_of_relative (relative : separator ∉ name) : isAbsolute name = false := by
  refine decide_eq_false fun first => relative ?_
  exact List.mem_of_mem_head? (by rw [first]; rfl)

theorem isAbsolute_append {other : OsStr} (absolute : isAbsolute path = true) :
    isAbsolute (path ++ other) = true := by
  cases path with
  | nil => cases absolute
  | cons => exact absolute

/-- What comes between a path and a name that is pushed to it. -/
def joint (path : OsStr) : OsStr :=
  if path = [] ∨ path.getLast? = some separator then [] else [separator]

theorem push_relative (relative : isAbsolute name = false) :
    push path name = path ++ joint path ++ name := by
  rw [push, relative, if_neg Bool.false_ne_true, joint]
  split <;> simp

theorem joint_append {before : OsStr} (given : path ≠ []) :
    joint (before ++ path) = joint path := by
  rw [joint, joint, List.getLast?_append_of_ne_nil _ given]
  simp [given]

theorem joint_append_joint (path : OsStr) : joint (path ++ joint path) = [] := by
  by_cases bare : path = [] ∨ path.getLast? = some separator
  · have none : joint path = [] := if_pos bare
    rw [none, List.append_nil, none]
  · have some : joint path = [separator] := if_neg bare
    rw [some]
    simp [joint]

/-- Below one directory, different names lead to different files. -/
theorem push_injective {other : OsStr} (relative : separator ∉ name)
    (otherRelative : separator ∉ other) (same : push path name = push path other) :
    name = other := by
  rw [push_relative (isAbsolute_of_relative relative),
    push_relative (isAbsolute_of_relative otherRelative)] at same
  exact List.append_cancel_left same

/-- It makes no difference which of two paths a name is pushed to first. -/
theorem push_push_name {cwd : OsStr} (relative : isAbsolute name = false) :
    push cwd (push path name) = push (push cwd path) name := by
  cases absolute : isAbsolute path with
  | true =>
      have whole : isAbsolute (push path name) = true := by
        rw [push_relative relative, List.append_assoc]
        exact isAbsolute_append absolute
      have first : push cwd path = path := by rw [push, if_pos absolute]
      rw [first, push, if_pos whole]
  | false =>
      rw [push_relative absolute, push_relative relative, push_relative relative]
      by_cases empty : path = []
      · subst empty
        have nothing : joint [] = [] := rfl
        rw [nothing, List.append_nil, List.append_nil, joint_append_joint, List.nil_append,
          List.append_nil, push_relative relative]
      · have whole : isAbsolute (path ++ joint path ++ name) = false := by
          cases path with
          | nil => exact absurd rfl empty
          | cons byte rest => exact absolute
        rw [push_relative whole, joint_append empty]
        simp only [List.append_assoc]

/-- What lies in a directory can be pushed at once. -/
theorem push_push {directory : OsStr} (relative : separator ∉ directory) (given : directory ≠ [])
    (nameRelative : isAbsolute name = false) :
    push (push path directory) name = push path (directory ++ separator :: name) := by
  have unended : directory.getLast? ≠ some separator := fun ends =>
    relative (List.mem_of_getLast? ends)
  have between : joint directory = [separator] := if_neg (not_or.mpr ⟨given, unended⟩)
  rw [← push_push_name nameRelative, push_relative nameRelative, between, List.append_assoc,
    List.singleton_append]

theorem head?_splitOn_append (path name : OsStr) :
    ((path ++ separator :: name).splitOn separator).head? = (path.splitOn separator).head? := by
  rw [List.splitOn_append_cons_self]
  cases names : path.splitOn separator with
  | nil => exact absurd names (List.splitOn_ne_nil _ _)
  | cons => rfl

theorem filterMap_splitOn_append (path name : OsStr) :
    ((path ++ separator :: name).splitOn separator).filterMap component =
      (path.splitOn separator).filterMap component ++
        (name.splitOn separator).filterMap component := by
  rw [List.splitOn_append_cons_self, List.filterMap_append]

/-- A path that goes on after a separator has the components of what follows in
addition. -/
theorem components_append_separator (path name : OsStr) :
    components (path ++ separator :: name) =
      components (path ++ [separator]) ++ (name.splitOn separator).filterMap component := by
  have absolute : isAbsolute (path ++ separator :: name) = isAbsolute (path ++ [separator]) := by
    cases path <;> rfl
  have nothing : (([] : OsStr).splitOn separator).filterMap component = [] := rfl
  simp only [components, absolute, head?_splitOn_append, filterMap_splitOn_append, nothing,
    List.append_nil, List.append_assoc]

/-- A separator at the end makes no difference. -/
theorem components_append_singleton (given : path ≠ []) :
    components (path ++ [separator]) = components path := by
  have absolute : isAbsolute (path ++ [separator]) = isAbsolute path := by
    rw [isAbsolute, List.head?_append_of_ne_nil _ given, isAbsolute]
  have nothing : (([] : OsStr).splitOn separator).filterMap component = [] := rfl
  simp only [components, absolute, head?_splitOn_append, filterMap_splitOn_append, nothing,
    List.append_nil]

/-- A name is a component of its own below the directory it is pushed to. -/
theorem components_push (relative : separator ∉ name)
    (proper : component name = some (.normal name)) :
    components (push path name) = components path ++ [.normal name] := by
  have single : (name.splitOn separator).filterMap component = [.normal name] := by
    rw [List.splitOn_eq_singleton relative, List.filterMap_cons, proper]
    rfl
  have notDot : name ≠ [dot] := by
    rintro rfl
    cases proper
  rw [push, isAbsolute_of_relative relative, if_neg Bool.false_ne_true]
  by_cases empty : path = []
  · subst empty
    have start : (name.splitOn separator).head? ≠ some [dot] := by
      rw [List.splitOn_eq_singleton relative]
      simpa using notDot
    simp only [true_or, if_true, List.nil_append, components,
      isAbsolute_of_relative relative, Bool.false_eq_true, if_false, if_neg start, single]
    rfl
  · by_cases ends : path.getLast? = some separator
    · rw [if_pos (Or.inr ends)]
      obtain ⟨before, rfl⟩ : Exists fun before => path = before ++ [separator] := by
        rw [List.getLast?_eq_some_iff] at ends
        exact ends
      rw [List.append_assoc, List.singleton_append, components_append_separator, single]
    · rw [if_neg (not_or.mpr ⟨empty, ends⟩), components_append_separator,
        components_append_singleton empty, single]

theorem parent_push (relative : separator ∉ name)
    (proper : component name = some (.normal name)) :
    parent (push path name) = some (components path) := by
  simp [parent, components_push relative proper]

theorem fileName_push (relative : separator ∉ name)
    (proper : component name = some (.normal name)) : fileName (push path name) = some name := by
  simp [fileName, components_push relative proper]

end Path
end Unix
end Fpd
