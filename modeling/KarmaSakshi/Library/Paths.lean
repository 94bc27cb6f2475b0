import Mathlib.Data.List.DropRight

/-!
Paths of two conventions, how a text is joined to one, and how one is resolved.

Resolving follows symbolic links and takes `..` as the parent of what was resolved before
it.  Under the second convention some names stand for a device in every directory.
-/

namespace KarmaSakshi.Library

set_option autoImplicit false

/-- A text with its letters in lower case. -/
def lowered (text : String) : String := String.ofList (text.toList.map Char.toLower)

inductive PathFlavour : Type where
  | posix
  | windows

/-- The names after an anchor, which is the drive or empty. -/
structure AbsolutePath where
  anchor : String
  names : List String
  deriving DecidableEq

namespace PathFlavour

def separates : PathFlavour → Char → Bool
  | posix, character => character == '/'
  | windows, character => character == '/' || character == '\\'

/-- The names in a text: what stands between the separators, without empty names and dots. -/
def namesIn (flavour : PathFlavour) (text : String) : List String :=
  ((text.toList.splitOnP flavour.separates).map String.ofList).filter
    (fun name => name ≠ "" ∧ name ≠ ".")

/-- Whether a text starts with a separator. -/
def rooted (flavour : PathFlavour) (text : String) : Bool :=
  (text.toList.head?.map flavour.separates).getD false

/-- A drive is a character and a colon; only the second convention has them. -/
def drive : PathFlavour → String → Option String
  | posix, _ => none
  | windows, text =>
      if text.toList[1]? = some ':' then some (String.ofList (text.toList.take 2)) else none

/-- A rooted text starts over, on the drive it names; another drive is taken at its root. -/
def join (flavour : PathFlavour) (path : AbsolutePath) (text : String) : AbsolutePath :=
  match flavour.drive text with
  | none =>
      if flavour.rooted text then { path with names := flavour.namesIn text }
      else { path with names := path.names ++ flavour.namesIn text }
  | some drive =>
      let left := String.ofList (text.toList.drop 2)
      if flavour.rooted left = false ∧ lowered drive = lowered path.anchor then
        { path with names := path.names ++ flavour.namesIn left }
      else ⟨drive, flavour.namesIn left⟩

def deviceNames : List String :=
  ["con", "prn", "aux", "nul", "com1", "com2", "com3", "com4", "com5", "com6", "com7", "com8",
    "com9", "lpt1", "lpt2", "lpt3", "lpt4", "lpt5", "lpt6", "lpt7", "lpt8", "lpt9"]

/-- A device whatever its extension, its case and the blanks after it. -/
def isDevice : PathFlavour → String → Bool
  | posix, _ => false
  | windows, name =>
      decide (lowered (String.ofList ((name.toList.takeWhile (fun character => character != '.')
        ).rdropWhile (fun character => character == ' '))) ∈ deviceNames)

end PathFlavour

namespace AbsolutePath

def child (path : AbsolutePath) (name : String) : AbsolutePath :=
  { path with names := path.names ++ [name] }

def parent (path : AbsolutePath) : AbsolutePath := { path with names := path.names.dropLast }

/-- `path.is_relative_to(root)`. -/
def within (path root : AbsolutePath) : Bool :=
  decide (path.anchor = root.anchor ∧ root.names <+: path.names)

/-- The path as a file system that ignores the case of letters tells it. -/
def folded (path : AbsolutePath) : AbsolutePath :=
  ⟨lowered path.anchor, path.names.map lowered⟩

end AbsolutePath

/-- Where a path leads. -/
inductive Place : Type where
  | directory (path : AbsolutePath)
  | device (name : String)
  deriving DecidableEq

/-- A convention, the texts of the symbolic links, and how many of them are followed. -/
structure FileSystem where
  flavour : PathFlavour
  link : AbsolutePath → Option String
  patience : Nat

namespace FileSystem

variable (files : FileSystem)

/-- The names one after the other, with a way to go on after a link. -/
def walk (follow : AbsolutePath → List String → Option Place) (path : AbsolutePath) :
    List String → Option Place
  | [] => some (.directory path)
  | name :: rest =>
      if name = "" ∨ name = "." then walk follow path rest
      else if name = ".." then walk follow path.parent rest
      else if files.flavour.isDevice name then some (.device name)
      else
        match files.link (path.child name) with
        | none => walk follow (path.child name) rest
        | some target =>
            let joined := files.flavour.join path target
            follow ⟨joined.anchor, []⟩ (joined.names ++ rest)

def resolveFrom : Nat → AbsolutePath → List String → Option Place
  | 0 => files.walk (fun _ _ => none)
  | links + 1 => files.walk (resolveFrom links)

/-- `path.resolve()`; too many links raise. -/
def resolve (path : AbsolutePath) : Option Place :=
  files.resolveFrom files.patience ⟨path.anchor, []⟩ path.names

/-- A name that stands for a directory of its own. -/
structure Plain (name : String) : Prop where
  nonempty : name ≠ ""
  noDot : name ≠ "."
  noParent : name ≠ ".."
  noDevice : files.flavour.isDevice name = false

/-- Every step of the path is a plain name and no link. -/
def Settled (path : AbsolutePath) : Prop :=
  ∀ front name, front ++ [name] <+: path.names →
    files.Plain name ∧ files.link ⟨path.anchor, front ++ [name]⟩ = none

variable {files} {path root : AbsolutePath} {name : String}

theorem settled_anchor (anchor : String) : files.Settled ⟨anchor, []⟩ := by
  intro front name leading
  have empty := List.prefix_nil.mp leading
  exact absurd empty (List.append_ne_nil_of_right_ne_nil _ (List.cons_ne_nil _ _))

theorem Settled.parent (settled : files.Settled path) : files.Settled path.parent := by
  intro front name leading
  exact settled front name (leading.trans (List.dropLast_prefix _))

theorem Settled.child (settled : files.Settled path) (plain : files.Plain name)
    (unlinked : files.link (path.child name) = none) : files.Settled (path.child name) := by
  intro front last leading
  rcases List.prefix_concat_iff.mp leading with whole | inside
  · obtain ⟨sames, ends⟩ := List.append_inj' whole rfl
    obtain rfl := List.singleton_inj.mp ends
    exact ⟨plain, by rw [sames]; exact unlinked⟩
  · exact settled front last inside

/-- Walking from a settled path ends at a settled path. -/
theorem walk_settles {follow : AbsolutePath → List String → Option Place}
    (follows : ∀ anchor names, follow ⟨anchor, []⟩ names = some (.directory root) →
      files.Settled root) :
    ∀ {names : List String} {path : AbsolutePath}, files.Settled path →
      files.walk follow path names = some (.directory root) → files.Settled root := by
  intro names
  induction names with
  | nil =>
      intro path settled reached
      obtain rfl := Place.directory.inj (Option.some.inj reached)
      exact settled
  | cons name rest ih =>
      intro path settled reached
      rw [walk] at reached
      by_cases skipped : name = "" ∨ name = "."
      · rw [if_pos skipped] at reached
        exact ih settled reached
      · rw [if_neg skipped] at reached
        by_cases up : name = ".."
        · rw [if_pos up] at reached
          exact ih settled.parent reached
        · rw [if_neg up] at reached
          by_cases device : files.flavour.isDevice name = true
          · rw [if_pos device] at reached
            cases reached
          · rw [if_neg device] at reached
            cases linked : files.link (path.child name) with
            | none =>
                rw [linked] at reached
                have plain : files.Plain name := ⟨fun empty => skipped (.inl empty),
                  fun dot => skipped (.inr dot), up, (by simpa using device)⟩
                exact ih (settled.child plain linked) reached
            | some target =>
                rw [linked] at reached
                exact follows _ _ reached

/-- What a path resolves to is settled. -/
theorem resolve_settles (reached : files.resolve path = some (.directory root)) :
    files.Settled root := by
  have from_anchor : ∀ links anchor names,
      files.resolveFrom links ⟨anchor, []⟩ names = some (.directory root) →
        files.Settled root := by
    intro links
    induction links with
    | zero =>
        intro anchor names
        exact walk_settles (fun _ _ impossible => by cases impossible) (settled_anchor anchor)
    | succ links ih =>
        intro anchor names
        exact walk_settles ih (settled_anchor anchor)
  exact from_anchor files.patience path.anchor path.names reached

/-- A settled path is walked as it is. -/
theorem walk_settled {follow : AbsolutePath → List String → Option Place} {anchor : String} :
    ∀ {names done : List String}, files.Settled ⟨anchor, done ++ names⟩ →
      files.walk follow ⟨anchor, done⟩ names = some (.directory ⟨anchor, done ++ names⟩) := by
  intro names
  induction names with
  | nil =>
      intro done _
      rw [walk, List.append_nil]
  | cons name rest ih =>
      intro done settled
      have split : done ++ name :: rest = (done ++ [name]) ++ rest := by
        rw [List.append_assoc, List.singleton_append]
      obtain ⟨plain, unlinked⟩ := settled done name (by rw [split]; exact List.prefix_append _ _)
      have here : files.link ((AbsolutePath.mk anchor done).child name) = none := unlinked
      rw [walk, if_neg (not_or.mpr ⟨plain.nonempty, plain.noDot⟩), if_neg plain.noParent,
        if_neg (by rw [plain.noDevice]; exact Bool.false_ne_true), here, split]
      rw [split] at settled
      exact ih settled

theorem resolve_settled (settled : files.Settled path) :
    files.resolve path = some (.directory path) := by
  have walked : ∀ links, files.resolveFrom links ⟨path.anchor, []⟩ path.names =
      some (.directory path) := by
    intro links
    cases links with
    | zero => exact walk_settled settled
    | succ links => exact walk_settled settled
  exact walked files.patience

end FileSystem

end KarmaSakshi.Library
