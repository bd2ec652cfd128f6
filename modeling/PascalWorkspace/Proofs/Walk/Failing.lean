import PascalWorkspace.Proofs.Walk.Usable

/-! What a walk can fail with: a path that cannot be used, more packages than there is room for, or
what the source of manifests fails with. -/
namespace PascalWorkspace

namespace Workspace

open Operation Registry

variable {source : ManifestSource} {h : Host} {visits : List Visit} {expected : Failure → Prop}

/-- What every walk over the manifests of a source may fail with is expected. -/
structure Covers (source : ManifestSource) (expected : Failure → Prop) : Prop where
  badPath : ∀ e, expected (.badPath e)
  exhausted : expected .exhausted
  reading : ∀ key failure, source.read key = .error failure → expected failure

theorem failsAs_report (level : Level) (reporter : Reporter) (text : String) :
    FailsAs expected (report level reporter text) := failsAs_modify _

theorem failsAs_changeRegistry (f : Registry → Registry) :
    FailsAs expected (changeRegistry f) := failsAs_modify _

section Covers

variable (hsource : Covers source expected)
include hsource

theorem failsAs_tryRegister (path : String) : FailsAs expected (tryRegister source path) := by
  intro w _
  obtain ⟨result, hasked, hresult⟩ := asked_tryRegister source path w
  generalize (after (tryRegister source path) w).registry = r at hasked
  rcases hrun : outcome (tryRegister source path) w with ⟨failure | answer, v⟩
  · rw [hrun] at hresult
    refine .inr ⟨failure, v, rfl, ?_⟩
    cases hasked with
    | badPath =>
      cases hresult
      exact hsource.badPath _
    | @refused key other _ _ hread =>
      cases other with
      | manifest => cases hresult
      | _ =>
        cases hresult
        exact hsource.reading key _ hread
    | known => cases hresult
    | registered => cases hresult
  · exact .inl ⟨answer, v, rfl, trivial⟩

theorem failsAs_linkDependency (ref : DependencyRef) :
    FailsAs expected (linkDependency source ref) := by
  refine triple_get_bind fun w _ => ?_
  dsimp only
  split
  · exact failsAs_pure _
  · split
    · exact failsAs_pure _
    · split
      · exact triple_bind (failsAs_report _ _ _) fun _ => failsAs_pure _
      · refine triple_bind (failsAs_tryRegister hsource _) fun result => ?_
        cases result with
        | error reason =>
          exact triple_bind (failsAs_report _ _ _) fun _ => failsAs_pure _
        | ok target =>
          exact triple_bind (failsAs_report _ _ _) fun _ =>
            triple_bind (failsAs_changeRegistry _) fun _ => failsAs_pure _

theorem failsAs_resolveAll (fuel : Nat) (refs : List DependencyRef) :
    FailsAs expected (resolveAll source fuel refs) := by
  induction fuel, refs using resolveAll.induct with
  | case1 fuel =>
    rw [resolveAll]
    exact failsAs_pure _
  | case2 fuel ref rest ih ihTarget =>
    rw [resolveAll]
    refine triple_bind (failsAs_linkDependency hsource ref) fun found => ?_
    cases found with
    | none => exact ih
    | some target =>
      dsimp only
      split
      · exact ih
      · refine triple_bind (failsAs_changeRegistry _) fun _ => ?_
        cases fuel with
        | zero => exact triple_throw hsource.exhausted
        | succ fuel => exact ihTarget target

theorem failsAs_resolve (key : String) : FailsAs expected (resolve source key) := by
  refine triple_get_bind fun w _ => ?_
  dsimp only
  split
  · exact failsAs_pure _
  · split
    · exact failsAs_pure _
    · exact triple_bind (failsAs_changeRegistry _) fun _ => failsAs_resolveAll hsource _ _

end Covers

theorem failsAs_repairDependency (ref : DependencyRef) :
    FailsAs expected (repairDependency ref) := by
  refine triple_get_bind fun w _ => ?_
  dsimp only
  split
  · exact failsAs_pure _
  · split
    · exact failsAs_pure _
    · split
      · exact failsAs_pure _
      · split
        · exact failsAs_pure _
        · exact triple_bind (failsAs_report _ _ _) fun _ => failsAs_changeRegistry _

theorem failsAs_repair (key : String) : FailsAs expected (repair key) := by
  refine triple_get_bind fun w _ => ?_
  split
  · exact failsAs_pure _
  · exact triple_forM fun ref _ => failsAs_repairDependency ref

/-! ### Walks -/

section Walks

variable (hsource : Covers source expected)
include hsource

theorem failsAs_listedManifests (reporter : Reporter) (visit : Visit) :
    FailsAs expected (listedManifests reporter visit) := by
  unfold listedManifests
  split
  · exact failsAs_pure _
  · exact triple_bind (failsAs_report _ _ _) fun _ => failsAs_pure _
  · exact triple_throw (hsource.badPath _)

theorem failsAs_forManifests {act : Package → Action Unit} (hact : ∀ p, FailsAs expected (act p))
    (reporter : Reporter) (manifests : List Path) :
    FailsAs expected (forManifests source act reporter manifests) :=
  (triple_forManifests (Q := fun _ => True) (fun _ _ _ => trivial)
    (fun m _ => (failsAs_tryRegister hsource m.toString).imp fun _ _ _ =>
      ⟨trivial, fun _ _ => trivial⟩)
    fun p _ => hact p).imp fun _ _ _ => trivial

theorem failsAs_forPackages {act : Package → Action Unit} (hact : ∀ p, FailsAs expected (act p))
    (visits : List Visit) : FailsAs expected (forPackages source act visits) := by
  induction visits with
  | nil => exact failsAs_pure _
  | cons visit rest ih =>
    refine triple_bind (failsAs_listedManifests hsource _ visit) fun manifests => ?_
    refine triple_bind (failsAs_forManifests hsource hact _ manifests) fun packages => ?_
    exact triple_bind ih fun _ => failsAs_pure _

theorem failsAs_publishVisit (h : Host) (visit : Visit) :
    FailsAs expected (publishVisit h source visit) := by
  refine triple_bind (failsAs_report _ _ _) fun _ => ?_
  refine triple_ofPathResult_bind (fun directory _ => ?_) fun e _ => hsource.badPath e
  have hnode : FailsAs expected (addNode (directoryNode directory)) :=
    failsAs_modify _
  have hpublish (p : Package) : FailsAs expected (publish p.manifest) :=
    failsAs_modify _
  refine triple_bind hnode fun _ => ?_
  refine triple_bind (failsAs_listedManifests hsource _ visit) fun manifests => ?_
  refine triple_bind (failsAs_forManifests hsource (fun _ => failsAs_pure _) _
    manifests) fun packages => ?_
  refine triple_bind (triple_forM fun p _ => failsAs_changeRegistry _) fun _ => ?_
  exact triple_forM fun p _ => triple_bind (hpublish p) fun _ =>
    triple_get_bind fun _ _ => failsAs_report _ _ _

theorem failsAs_resolveBelow (h : Host) (ignored : List String) (directory : Path) :
    FailsAs expected (resolveBelow h source ignored directory) :=
  triple_bind (failsAs_forPackages hsource (fun p => failsAs_resolve hsource p.manifest) _)
    fun _ => failsAs_pure _

theorem failsAs_repairBelow (h : Host) (ignored : List String) (directory : Path) :
    FailsAs expected (repairBelow h source ignored directory) :=
  triple_bind (failsAs_forPackages hsource (fun p => failsAs_repair p.manifest) _)
    fun _ => failsAs_pure _

theorem failsAs_publishBelow (h : Host) (ignored : List String) (directory : Path) :
    FailsAs expected (publishBelow h source ignored directory) :=
  triple_forM fun visit _ => failsAs_publishVisit hsource h visit

end Walks

end Workspace

end PascalWorkspace
