import KarmaSakshi.Gateway.TenantDirectories

/-!
The data directories of organizations lie under the root, one directory for each id.
-/

namespace KarmaSakshi.Guarantees

open KarmaSakshi.Domain KarmaSakshi.Library KarmaSakshi.Gateway

set_option autoImplicit false

section Directories

variable {plane : TenantFiles} {root : AbsolutePath} {value : String}

theorem child_strictly_within (path : AbsolutePath) (name : String) :
    (path.child name).within path = true ∧ path.child name ≠ path := by
  constructor
  · exact decide_eq_true ⟨rfl, List.prefix_append _ _⟩
  · intro same
    have lengths := congrArg (fun found => found.names.length) same
    simp [AbsolutePath.child] at lengths

/-- Different ids make different names, also for a file system that ignores the case. -/
theorem folded_children {first second : String} (one : CanonicalOrgId first)
    (other : CanonicalOrgId second) (different : first ≠ second) (path : AbsolutePath) :
    (path.child first).folded ≠ (path.child second).folded := by
  intro same
  have names := congrArg AbsolutePath.names same
  simp only [AbsolutePath.folded, AbsolutePath.child, List.map_append, List.map_cons,
    List.map_nil, one.lower, other.lower] at names
  exact different (List.singleton_inj.mp (List.append_cancel_left names))

/-- Below the root, an accepted id leads to the child of its name. -/
theorem tenant_dir_of (resolved : plane.root = some (.directory root))
    (unlinked : ∀ path, path.within root = true → path ≠ root → plane.files.link path = none)
    (valid : validateCanonicalOrgId plane.nfkc value = .ok value) :
    plane.tenantDir value = .ok (root.child value) := by
  have canonical := accepted_org_id valid
  obtain ⟨inside, strict⟩ := child_strictly_within root value
  have settled : plane.files.Settled (root.child value) :=
    (FileSystem.resolve_settles resolved).child (canonical.plain plane.files)
      (unlinked _ inside strict)
  rw [TenantFiles.tenantDir, valid, resolved]
  simp only [bind, Except.bind, canonical.join_child, FileSystem.resolve_settled settled]
  rw [if_neg]
  intro escapes
  rcases escapes with same | outside
  · exact strict same
  · rw [inside] at outside
    cases outside

theorem tenant_dir_accepts {path : AbsolutePath} (made : plane.tenantDir value = .ok path) :
    validateCanonicalOrgId plane.nfkc value = .ok value := by
  rcases @org_id_unchanged plane.nfkc value with refused | accepted
  · obtain ⟨message, refused⟩ := refused
    rw [TenantFiles.tenantDir, refused] at made
    cases made
  · exact accepted

end Directories

/-- The validator changes no id; the directory of an accepted id is a strict child of the root,
named like the id; and different ids have directories that no file system takes for one. -/
theorem tenant_directories_are_apart {plane : TenantFiles} {root : AbsolutePath}
    (resolved : plane.root = some (.directory root))
    (unlinked : ∀ path, path.within root = true → path ≠ root → plane.files.link path = none) :
    (∀ value,
      (∃ message, validateCanonicalOrgId plane.nfkc value =
          .error ⟨.invalidOrganizationId, message⟩ ∧
        plane.tenantDir value = .error ⟨.invalidOrganizationId, message⟩) ∨
      (validateCanonicalOrgId plane.nfkc value = .ok value ∧
        plane.tenantDir value = .ok (root.child value) ∧ plane.files.Plain value ∧
          (root.child value).within root = true ∧ root.child value ≠ root)) ∧
    ∀ first second firstDir secondDir, plane.tenantDir first = .ok firstDir →
      plane.tenantDir second = .ok secondDir → first ≠ second →
        firstDir ≠ secondDir ∧ firstDir.folded ≠ secondDir.folded := by
  constructor
  · intro value
    rcases @org_id_unchanged plane.nfkc value with refused | accepted
    · obtain ⟨message, refused⟩ := refused
      refine .inl ⟨message, refused, ?_⟩
      rw [TenantFiles.tenantDir, refused]
      rfl
    · have canonical := accepted_org_id accepted
      exact .inr ⟨accepted, tenant_dir_of resolved unlinked accepted,
        canonical.plain plane.files, child_strictly_within root value⟩
  · intro first second firstDir secondDir firstMade secondMade different
    have firstValid := tenant_dir_accepts firstMade
    have secondValid := tenant_dir_accepts secondMade
    rw [tenant_dir_of resolved unlinked firstValid] at firstMade
    rw [tenant_dir_of resolved unlinked secondValid] at secondMade
    obtain rfl := Except.ok.inj firstMade
    obtain rfl := Except.ok.inj secondMade
    have apart := folded_children (accepted_org_id firstValid) (accepted_org_id secondValid)
      different root
    exact ⟨fun same => apart (congrArg AbsolutePath.folded same), apart⟩

/-- A root given through a link, on a system that ignores the case of letters. -/
def linkedRoot : TenantFiles where
  files :=
    { flavour := .windows
      link := fun path => if path = ⟨"C:", ["data"]⟩ then some "Stores\\Main" else none
      patience := 40 }
  workingDirectory := ⟨"C:", ["work"]⟩
  dataRoot := some "C:\\data\\..\\Main\\tenants"
  nfkc := id

theorem linked_root_is_kept :
    linkedRoot.tenantDir "acme" = .ok ⟨"C:", ["Stores", "Main", "tenants", "acme"]⟩ ∧
      linkedRoot.tenantDir "acme-2" = .ok ⟨"C:", ["Stores", "Main", "tenants", "acme-2"]⟩ ∧
        (AbsolutePath.mk "C:" ["Stores", "Main", "tenants", "acme"]).folded ≠
          (AbsolutePath.mk "C:" ["Stores", "Main", "tenants", "acme-2"]).folded := by
  have resolved : linkedRoot.root =
      some (.directory ⟨"C:", ["Stores", "Main", "tenants"]⟩) := by
    decide +kernel
  have unlinked : ∀ path : AbsolutePath,
      path.within ⟨"C:", ["Stores", "Main", "tenants"]⟩ = true →
        path ≠ ⟨"C:", ["Stores", "Main", "tenants"]⟩ → linkedRoot.files.link path = none := by
    intro path inside _
    apply if_neg
    intro data
    rw [data] at inside
    exact absurd inside (by decide)
  have kept := tenant_directories_are_apart resolved unlinked
  have valid : validateCanonicalOrgId id "acme" = .ok "acme" := by decide +kernel
  have validToo : validateCanonicalOrgId id "acme-2" = .ok "acme-2" := by decide +kernel
  have first : linkedRoot.tenantDir "acme" =
      .ok ⟨"C:", ["Stores", "Main", "tenants", "acme"]⟩ := by
    rcases kept.1 "acme" with refused | accepted
    · obtain ⟨message, refused, _⟩ := refused
      exact absurd (valid.symm.trans refused) (fun same => by cases same)
    · exact accepted.2.1
  have second : linkedRoot.tenantDir "acme-2" =
      .ok ⟨"C:", ["Stores", "Main", "tenants", "acme-2"]⟩ := by
    rcases kept.1 "acme-2" with refused | accepted
    · obtain ⟨message, refused, _⟩ := refused
      exact absurd (validToo.symm.trans refused) (fun same => by cases same)
    · exact accepted.2.1
  exact ⟨first, second, (kept.2 _ _ _ _ first second (by decide)).2⟩

end KarmaSakshi.Guarantees
