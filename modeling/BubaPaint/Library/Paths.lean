import Mathlib.Data.List.Basic

/-!
# Lexical paths

A path is read as its components: the root, names, and the names of the current and of the parent
directory. Nothing is asked of a file system.
-/

namespace Paths

open List

/-- Whether a path below a directory is in a list is decided by comparing names. -/
scoped instance lawfulBEqPlaces : LawfulBEq (List String) :=
  inferInstance

/-- A component of a path. -/
inductive Component where
  | root
  | current
  | parent
  | name (text : String)
  deriving DecidableEq

abbrev Path : Type :=
  List Component

/-- The component that a part between two slashes names, if it names one. Only at the start of a
relative path the current directory is a component. -/
def component? (part : String) : Option Component :=
  if part = "" ∨ part = "." then none
  else if part = ".." then some .parent
  else some (.name part)

def Component.text : Component → String
  | .root => ""
  | .current => "."
  | .parent => ".."
  | .name text => text

def Component.name? : Component → Option String
  | .name text => some text
  | _ => none

/-- What follows the last dot of a name. A name that only starts with a dot has no extension. -/
def nameExtension (name : String) : Option String :=
  let after := (name.toList.reverse.takeWhile (· ≠ '.')).reverse
  if name.toList.length ≤ after.length + 1 then none else some (String.ofList after)

namespace Path

def parse (text : String) : Path :=
  let parts := (text.toList.splitOn '/').map String.ofList
  let first : Path :=
    if text.toList.head? = some '/' then [.root] else if parts.head? = some "." then [.current] else []
  first ++ parts.filterMap component?

def text : Path → String
  | [.root] => "/"
  | path => "/".intercalate (path.map (·.text))

def isAbsolute (path : Path) : Bool :=
  path.head? = some .root

def join (root path : Path) : Path :=
  if path.isAbsolute ∨ root = [] then path else root ++ path.filter (· ≠ .current)

def parent (path : Path) : Option Path :=
  match path.getLast? with
  | none | some .root => none
  | some _ => some path.dropLast

def fileName (path : Path) : Option String :=
  match path.getLast? with
  | some (.name text) => some text
  | _ => none

/-- What follows the last dot of the file name. -/
def extension (path : Path) : Option String :=
  path.fileName.bind nameExtension

def withSuffix (path : Path) (suffix : String) : Path :=
  match path.getLast? with
  | some (.name text) => path.dropLast ++ [.name (text ++ suffix)]
  | _ => path

/-- The place that a path names, if the current directory is the given one. -/
def locate (cwd : List String) (path : Path) : List String :=
  (if path.isAbsolute then [] else cwd) ++ path.filterMap Component.name?

/-- The root is nowhere but at the start of the path. -/
def IsProper (path : Path) : Prop :=
  .root ∉ path.tail

/-- The path has no detours. -/
structure IsDirect (path : Path) : Prop where
  proper : path.IsProper
  current : .current ∉ path
  parent : .parent ∉ path

variable {root path : Path} {cwd : List String}

theorem isProper_parse (text : String) : (parse text).IsProper := by
  have hparts : ∀ parts : List String, .root ∉ parts.filterMap component? := by
    intro parts hmem
    rcases mem_filterMap.mp hmem with ⟨part, -, hpart⟩
    simp only [component?] at hpart
    split at hpart
    · cases hpart
    split at hpart
    · cases hpart
    · cases hpart
  unfold IsProper parse
  by_cases hslash : text.toList.head? = some '/'
  · simpa [hslash] using hparts ((text.toList.splitOn '/').map String.ofList)
  by_cases hdot : ((text.toList.splitOn '/').map String.ofList).head? = some "."
  · simpa [hslash, hdot] using hparts ((text.toList.splitOn '/').map String.ofList)
  · simp only [hslash, hdot, if_false, nil_append]
    exact fun hmem => hparts _ (mem_of_mem_tail hmem)

theorem IsProper.dropLast (h : path.IsProper) : IsProper path.dropLast := by
  unfold IsProper at *
  rw [tail_dropLast]
  exact fun hmem => h ((dropLast_subset _) hmem)

theorem filterMap_filter_current (path : Path) :
    (path.filter (· ≠ .current)).filterMap Component.name? = path.filterMap Component.name? := by
  induction path with
  | nil => rfl
  | cons component rest ih =>
    cases component <;> simpa [Component.name?, filterMap_cons] using ih

theorem locate_filter (h : path.IsProper) :
    Path.locate cwd (path.filter (· ≠ .current)) = path.locate cwd := by
  have habsolute : Path.isAbsolute (path.filter (· ≠ .current)) = path.isAbsolute := by
    cases path with
    | nil => rfl
    | cons component rest =>
      cases component with
      | current =>
        have hrest : .root ∉ rest := h
        have hhead : (rest.filter (· ≠ .current)).head? ≠ some .root := fun hhead =>
          hrest (mem_filter.mp (mem_of_head? hhead)).1
        simpa [isAbsolute] using hhead
      | root | parent | name text => rfl
  unfold locate
  rw [filterMap_filter_current, habsolute]

/-- A path leads from the directory it is joined to, as from the current one. -/
theorem locate_join (hroot : root ≠ []) :
    (root.join path).locate cwd = path.locate (root.locate cwd) := by
  unfold join
  by_cases habsolute : path.isAbsolute
  · simp [locate, habsolute]
  · rcases exists_cons_of_ne_nil hroot with ⟨component, rest, rfl⟩
    have hstart : Path.isAbsolute (component :: rest ++ path.filter (· ≠ .current)) =
        Path.isAbsolute (component :: rest) := rfl
    simp only [habsolute, hroot, or_self, if_false, locate, hstart, filterMap_append,
      filterMap_filter_current, append_assoc, Bool.false_eq_true]

theorem IsProper.join (h : path.IsProper) (hroot : root.IsProper) : IsProper (root.join path) := by
  unfold Path.join
  by_cases habsolute : path.isAbsolute ∨ root = []
  · rwa [if_pos habsolute]
  rw [if_neg habsolute]
  rcases not_or.mp habsolute with ⟨hrelative, hnonempty⟩
  have hpath : .root ∉ path := by
    cases path with
    | nil => exact not_mem_nil
    | cons component rest =>
      refine not_mem_cons_of_ne_of_not_mem (fun heq => hrelative ?_) h
      simp [isAbsolute, ← heq]
  unfold IsProper
  rw [tail_append_of_ne_nil hnonempty]
  intro hmem
  rcases mem_append.mp hmem with hmem | hmem
  · exact hroot hmem
  · exact hpath (mem_filter.mp hmem).1

theorem IsProper.isDirect_filter (h : path.IsProper) (hparent : .parent ∉ path) :
    IsDirect (path.filter (· ≠ .current)) where
  proper := by
    intro hmem
    cases path with
    | nil => cases hmem
    | cons component rest =>
      have hrest : .root ∉ rest := h
      by_cases hcurrent : component = .current
      · simp only [hcurrent, filter_cons, ne_eq, not_true, decide_false] at hmem
        exact hrest (mem_filter.mp (mem_of_mem_tail hmem)).1
      · simp only [filter_cons, ne_eq, hcurrent, not_false_eq_true, decide_true] at hmem
        exact hrest (mem_filter.mp hmem).1
  current := by simp
  parent := fun hmem => hparent (mem_filter.mp hmem).1

/-- A path that leads down from a directory ends with a name. -/
theorem IsDirect.exists_eq_append_name (h : path.IsDirect) (hlead : root <+: path)
    (hroot : root ≠ []) (hne : path ≠ root) :
    ∃ dir name, dir ≠ [] ∧ path = dir ++ [.name name] := by
  rcases hlead with ⟨below, rfl⟩
  have hbelow : below ≠ [] := fun hnil => hne (by rw [hnil, append_nil])
  rcases eq_nil_or_concat below with hnil | ⟨front, last, hlast⟩
  · exact absurd hnil hbelow
  rw [concat_eq_append] at hlast
  subst hlast
  have hmem : last ∈ (root ++ (front ++ [last])).tail := by
    rw [tail_append_of_ne_nil hroot]
    simp
  cases last with
  | name text =>
    refine ⟨root ++ front, text, by simp [hroot], by simp⟩
  | root => exact absurd hmem h.proper
  | current => exact absurd (mem_of_mem_tail hmem) h.current
  | parent => exact absurd (mem_of_mem_tail hmem) h.parent

theorem extension_append_name (dir : Path) (name : String) :
    Path.extension (dir ++ [.name name]) = nameExtension name := by
  simp [extension, fileName]

theorem withSuffix_append_name (dir : Path) (name suffix : String) :
    Path.withSuffix (dir ++ [.name name]) suffix = dir ++ [.name (name ++ suffix)] := by
  simp [withSuffix]

theorem locate_append_name {dir : Path} (hdir : dir ≠ []) (name : String) :
    Path.locate cwd (dir ++ [.name name]) = dir.locate cwd ++ [name] := by
  rcases exists_cons_of_ne_nil hdir with ⟨component, rest, rfl⟩
  have hstart : Path.isAbsolute (component :: rest ++ [.name name]) =
      Path.isAbsolute (component :: rest) := rfl
  simp only [locate, hstart, filterMap_append, append_assoc]
  rfl

end Path

end Paths
