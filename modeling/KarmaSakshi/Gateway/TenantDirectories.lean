import KarmaSakshi.Gateway.OrgIds
import KarmaSakshi.Library.Paths

/-!
The data directory that the tenant control plane makes of an organization id.
-/

namespace KarmaSakshi.Gateway

open KarmaSakshi.Domain KarmaSakshi.Library

set_option autoImplicit false

/-- What the control plane knows of its files. -/
structure TenantFiles where
  files : FileSystem
  workingDirectory : AbsolutePath
  dataRoot : Option String
  nfkc : String → String

namespace TenantFiles

variable (plane : TenantFiles)

def root : Option Place :=
  plane.files.resolve (plane.files.flavour.join plane.workingDirectory
    (plane.dataRoot.getD ".karmasakshi-tenants"))

def symlinkLoop : PyError := ⟨.runtimeError, "Symlink loop"⟩

def escapesRoot : PyError :=
  ⟨.tenantIsolation, "resolved tenant path escapes the configured data root (fail closed)"⟩

/-- The directory of `_build_state`; under a device none can be made. -/
def tenantDir (tenantId : String) : Except PyError AbsolutePath := do
  let _ ← validateCanonicalOrgId plane.nfkc tenantId
  match plane.root with
  | none => .error symlinkLoop
  | some (.device _) => .error ⟨.other "NotADirectoryError", tenantId⟩
  | some (.directory root) =>
      match plane.files.resolve (plane.files.flavour.join root tenantId) with
      | none => .error symlinkLoop
      | some (.device _) => .error escapesRoot
      | some (.directory path) =>
          if path = root ∨ path.within root = false then .error escapesRoot else .ok path

end TenantFiles

/-! ### Organization ids as names -/

namespace CanonicalOrgId

variable {value : String} (canonical : CanonicalOrgId value)

include canonical

theorem lower : lowered value = value := by
  have same : value.toList.map Char.toLower = value.toList.map id :=
    List.map_congr_left fun letter listed =>
      (org_letter_is_plain (canonical.letters letter listed)).2.2.2.2.2
  rw [lowered, same, List.map_id, String.ofList_toList]

theorem no_dot : value ≠ "." ∧ value ≠ ".." := by
  have letters := canonical.letters
  constructor
  · intro same
    rw [same] at letters
    exact (org_letter_is_plain (letters '.' (by decide))).2.2.2.1 rfl
  · intro same
    rw [same] at letters
    exact (org_letter_is_plain (letters '.' (by decide))).2.2.2.1 rfl

theorem unseparated (flavour : PathFlavour) :
    ∀ letter ∈ value.toList, flavour.separates letter = false := by
  intro letter listed
  have plain := org_letter_is_plain (canonical.letters letter listed)
  cases flavour with
  | posix => exact beq_eq_false_iff_ne.mpr plain.1
  | windows =>
      exact Bool.or_eq_false_iff.mpr
        ⟨beq_eq_false_iff_ne.mpr plain.1, beq_eq_false_iff_ne.mpr plain.2.1⟩

/-- The id is a single name. -/
theorem one_name (flavour : PathFlavour) : flavour.namesIn value = [value] := by
  rw [PathFlavour.namesIn, List.splitOnP_eq_singleton (canonical.unseparated flavour),
    List.map_singleton, String.ofList_toList]
  exact List.filter_cons_of_pos (decide_eq_true ⟨canonical.nonempty, canonical.no_dot.1⟩)

theorem not_rooted (flavour : PathFlavour) : flavour.rooted value = false := by
  rw [PathFlavour.rooted]
  cases first : value.toList with
  | nil => rfl
  | cons letter rest =>
      exact canonical.unseparated flavour letter (by rw [first]; exact List.mem_cons_self)

theorem no_drive (flavour : PathFlavour) : flavour.drive value = none := by
  cases flavour with
  | posix => rfl
  | windows =>
      rw [PathFlavour.drive, if_neg]
      intro colon
      have listed := List.mem_of_getElem? colon
      exact (org_letter_is_plain (canonical.letters ':' listed)).2.2.1 rfl

theorem join_child (flavour : PathFlavour) (path : AbsolutePath) :
    flavour.join path value = path.child value := by
  rw [PathFlavour.join, canonical.no_drive, canonical.not_rooted, canonical.one_name]
  rfl

theorem no_device (flavour : PathFlavour) : flavour.isDevice value = false := by
  cases flavour with
  | posix => rfl
  | windows =>
      have letters := fun letter listed => org_letter_is_plain (canonical.letters letter listed)
      have stem : value.toList.takeWhile (fun character => character != '.') = value.toList := by
        apply List.takeWhile_eq_self_iff.mpr
        intro letter listed
        exact bne_iff_ne.mpr (letters letter listed).2.2.2.1
      have unblanked : value.toList.rdropWhile (fun character => character == ' ') =
          value.toList := by
        apply List.rdropWhile_eq_self_iff.mpr
        intro nonempty blank
        exact (letters _ (List.getLast_mem nonempty)).2.2.2.2.1 (eq_of_beq blank)
      rw [PathFlavour.isDevice, stem, unblanked, String.ofList_toList, canonical.lower]
      apply decide_eq_false
      have same : PathFlavour.deviceNames = reservedWindowsNames := by decide
      rw [same]
      exact canonical.unreserved

theorem plain (files : FileSystem) : files.Plain value :=
  ⟨canonical.nonempty, canonical.no_dot.1, canonical.no_dot.2, canonical.no_device files.flavour⟩

end CanonicalOrgId

end KarmaSakshi.Gateway
