import PascalWorkspace.Proofs.Package.Stock
import PascalWorkspace.Proofs.Walk.Usable

/-! Walks over manifests of a reliable source. They end well or fail as expected, and the search for
dependencies never meets more packages than it reckons with. -/
namespace PascalWorkspace

namespace Workspace

open Operation Registry

variable {source : ManifestSource} {expected : Failure → Prop} {h : Host} {slack : Nat}
  {r : Registry} {p : Package} {d : Dependency} {text : String} {visit : Visit}
  {visits : List Visit} {ignored : List String} {directory : Path}

/-- The registry of a workspace holds manifests on offer only. -/
def Holds (source : ManifestSource) (slack : Nat) (w : Workspace) : Prop :=
  Stocked source slack w.registry

theorem holds_log (w : Workspace) (log : Log) (hw : Holds source slack w) :
    Holds source slack { w with log } := hw

/-- The package of a manifest that could be read is registered. -/
def Admitted (w : Workspace) (result : Except String Package) : Prop :=
  result.toOption.elim True fun p => w.registry.find? p.manifest = some p

/-- A package that was found for a dependency is registered. -/
def Found (w : Workspace) (found : Option Package) : Prop :=
  found.elim True fun target => (w.registry.find? target.manifest).isSome ∧
    w.registry.isResolvedAt target.manifest = target.isResolved

/-- An error of a path under which a dependency is looked for is expected. -/
theorem expected_of_choosePath (hsource : source.Reliable expected) (hr : Stocked source slack r)
    (hp : p ∈ r.packages) (hd : d ∈ p.dependencies) (hpath : (r.choosePath d).isEmpty = false)
    {e : PathError} (he : source.canonical (r.choosePath d) = .error e) :
    expected (.badPath e) := by
  have hhint (hchosen : r.choosePath d = d.hint) : expected (.badPath e) := by
    obtain ⟨m, hm, hrequirements⟩ := hr.offered p hp
    have hmem : d.toRequirement ∈ m.requirements := hrequirements ▸ List.mem_map_of_mem hd
    refine hsource.hints p.manifest m hm d.toRequirement hmem ?_ e (hchosen ▸ he)
    rintro hempty
    rw [hchosen, hempty] at hpath
    cases hpath
  by_cases hchoice : d.prefer || (r.namedPath d.name).isEmpty
  · exact hhint (if_pos hchoice)
  · have hchosen : r.choosePath d = r.namedPath d.name := if_neg hchoice
    -- The name leads to a registered package, so its path is canonical.
    cases hlookup : r.lookup? d.name with
    | none => simp [namedPath, hlookup] at hchoice
    | some found =>
      obtain ⟨q, hq, rfl⟩ := hr.catalogued.exists_of_lookup? hlookup
      obtain ⟨m, hm, -⟩ := hr.offered q hq
      obtain ⟨other, hother⟩ := hsource.again _ m hm
      rw [hchosen, namedPath, hlookup, Option.getD_some, hother] at he
      cases he

theorem triple_tryRegister (hsource : source.Reliable expected)
    (htext : ∀ e, source.canonical text = .error e → expected (.badPath e)) :
    Triple expected (Holds source slack) (tryRegister source text) fun result w =>
      Holds source slack w ∧ Admitted w result := by
  intro w hw
  rw [outcome_tryRegister, after]
  cases hkey : source.canonical text with
  | error e =>
    rw [outcome_register_badPath hkey]
    exact .inr ⟨_, _, rfl, htext e hkey⟩
  | ok key =>
    cases hfind : w.registry.find? key with
    | some p =>
      rw [outcome_register_known hkey hfind]
      obtain rfl := find?_manifest hfind
      exact .inl ⟨_, _, rfl, hw, hfind⟩
    | none =>
      obtain ⟨m, hread⟩ | ⟨path, fault, hread⟩ := hsource.reads text key hkey
      · rw [outcome_register_new hkey hfind hread]
        exact .inl ⟨_, _, rfl, Stocked.register hw ⟨⟨text, hkey⟩, hread⟩ hfind,
          (find?_add hfind).trans (if_pos rfl)⟩
      · rw [outcome_register_refused hkey hfind hread]
        exact .inl ⟨_, _, rfl, ⟨hw.distinct, hw.catalogued.congr rfl rfl, hw.offered, hw.room⟩,
          trivial⟩

/-- What is found out about packages takes nothing back. -/
theorem triple_changeRegistry {f : Registry → Registry}
    (hf : ∀ r, Develops r (f r)) :
    Triple expected (Holds source slack) (changeRegistry f) fun _ => Holds source slack :=
  triple_modify fun w hw => Stocked.later hw (hf w.registry)

theorem triple_link {ref : DependencyRef} (target : Package) :
    Triple expected
      (fun w => Holds source slack w ∧ w.registry.find? target.manifest = some target)
      (changeRegistry (·.link ref target.manifest)) fun _ w =>
        Holds source slack w ∧ Found w (some target) := by
  refine triple_modify fun w hw => ⟨Stocked.later hw.1 develops_link, ?_, ?_⟩
  · rw [isSome_find?_link, hw.2]
    rfl
  · rw [isResolvedAt_link, isResolvedAt_of_find? hw.2]

/-- A dependency is tied to a package that is registered, or to none. -/
theorem triple_linkDependency (hsource : source.Reliable expected) (ref : DependencyRef) :
    Triple expected (Holds source slack) (linkDependency source ref) fun found w =>
      Holds source slack w ∧ Found w found := by
  have hnone : Triple expected (Holds source slack) (pure none : Action (Option Package))
      fun found w => Holds source slack w ∧ Found w found :=
    triple_pure fun w hw => ⟨hw, trivial⟩
  refine triple_get_bind fun w hw => ?_
  dsimp only
  split
  · exact hnone
  · next p hp =>
    split
    · exact hnone
    · next d hd =>
      split
      · exact triple_bind (triple_report holds_log _ _) fun _ => hnone
      · next hpath =>
        have htext (e : PathError) (he : source.canonical (w.registry.choosePath d) = .error e) :
            expected (.badPath e) :=
          expected_of_choosePath hsource hw (find?_mem hp) (List.mem_of_getElem? hd)
            (Bool.eq_false_iff.2 hpath) he
        refine triple_bind (triple_tryRegister hsource htext) fun result => ?_
        cases result with
        | error reason =>
          refine triple_bind (triple_report (fun _ _ hv => hv) _ _) fun _ => ?_
          exact triple_pure fun v hv => ⟨hv.1, trivial⟩
        | ok target =>
          refine triple_bind (triple_report (fun _ _ hv => hv) _ _) fun _ => ?_
          exact triple_bind (triple_link target) fun _ => triple_pure fun v hv => hv

/-- A target whose dependencies have not been looked for had room for itself. -/
theorem triple_markResolved {target : Package} (hnew : target.isResolved = false)
    (hsource : source.Reliable expected) :
    Triple expected (fun w => Holds source slack w ∧ Found w (some target))
      (changeRegistry (·.markResolved target.manifest)) fun _ w =>
        ∃ less, slack = less + 1 ∧ Holds source less w := by
  refine triple_modify fun w hw => ?_
  obtain ⟨hw, hfind, hbegun⟩ := hw
  have hlater : Stocked source slack (w.registry.markResolved target.manifest) :=
    Stocked.later hw develops_markResolved
  have hless := unbegun_markResolved hfind (hbegun.trans hnew)
  have hsame : (w.registry.markResolved target.manifest).size = w.registry.size := List.length_map _
  have hsize := hlater.size_le hsource
  have hroom := hw.room
  obtain ⟨less, rfl⟩ : ∃ less, slack = less + 1 := ⟨slack - 1, by omega⟩
  have hleft : source.capacity + (w.registry.markResolved target.manifest).unbegun ≤
      less + (w.registry.markResolved target.manifest).size := by omega
  exact ⟨less, rfl, hlater.distinct, hlater.catalogued, hlater.offered, hleft⟩

/-- Looking for dependencies ends well or as expected. It does not meet too many packages. -/
theorem triple_resolveAll (hsource : source.Reliable expected) (fuel : Nat)
    (refs : List DependencyRef) :
    Triple expected (Holds source fuel) (resolveAll source fuel refs) fun _ =>
      Holds source source.capacity := by
  induction fuel, refs using resolveAll.induct with
  | case1 fuel =>
    rw [resolveAll]
    exact triple_pure fun w hw => hw.of_slack le_rfl
  | case2 fuel ref rest ih ihTarget =>
    rw [resolveAll]
    refine triple_bind (triple_linkDependency hsource ref) fun found => ?_
    cases found with
    | none => exact fun w hw => ih w hw.1
    | some target =>
      dsimp only
      split
      · exact fun w hw => ih w hw.1
      · next hnew =>
        refine triple_bind (triple_markResolved (by simpa using hnew) hsource) fun _ => ?_
        cases fuel with
        | zero =>
          rintro w ⟨less, hless, -⟩
          cases hless
        | succ fuel =>
          rintro w ⟨less, hless, hw⟩
          obtain rfl := Nat.succ.inj hless
          exact ihTarget target w hw

theorem triple_resolve (hsource : source.Reliable expected) (key : String) :
    Triple expected (Holds source source.capacity) (resolve source key) fun _ =>
      Holds source source.capacity := by
  refine triple_get_bind fun w _ => ?_
  dsimp only
  split
  · exact triple_pure fun v hv => hv
  · split
    · exact triple_pure fun v hv => hv
    · refine triple_bind (triple_changeRegistry fun _ => develops_markResolved) fun _ => ?_
      exact fun v hv => triple_resolveAll hsource _ _ v (hv.of_slack (Nat.le_add_right _ _))

theorem triple_repairDependency (ref : DependencyRef) :
    Triple expected (Holds source slack) (repairDependency ref) fun _ => Holds source slack := by
  have hstay : Triple expected (Holds source slack) (pure ()) fun _ => Holds source slack :=
    triple_pure fun v hv => hv
  refine triple_get_bind fun w _ => ?_
  dsimp only
  split
  · exact hstay
  · split
    · exact hstay
    · split
      · exact hstay
      · split
        · exact hstay
        · exact triple_bind (triple_report holds_log _ _) fun _ =>
            triple_changeRegistry fun _ => develops_setTarget

theorem triple_repair (key : String) :
    Triple expected (Holds source slack) (repair key) fun _ => Holds source slack := by
  refine triple_get_bind fun w _ => ?_
  split
  · exact triple_pure fun v hv => hv
  · exact triple_forM fun ref _ => triple_repairDependency ref

theorem triple_publishAndReport (p : Package) :
    Triple expected (Holds source slack) (publishAndReport p) fun _ => Holds source slack := by
  have hpublish : Triple expected (Holds source slack) (publish p.manifest) fun _ =>
      Holds source slack :=
    triple_modify fun w hw => Stocked.later hw (develops_publishAll w.defines [p.manifest])
  exact triple_bind hpublish fun _ => triple_get_bind fun _ _ => triple_report holds_log _ _

/-! ### Walks -/

/-- The visits of a walk meet no errors but expected ones. -/
structure Clear (h : Host) (source : ManifestSource) (expected : Failure → Prop)
    (visits : List Visit) : Prop where
  passable : ∀ visit ∈ visits, visit.Passable
  manifests : ∀ visit ∈ visits, ∀ m ∈ visit.listed, ∀ e, source.canonical m.toString = .error e →
    expected (.badPath e)
  directories : ∀ visit ∈ visits, ∀ e, h.canonical visit.directory.toString = .error e →
    expected (.badPath e)

section Clear

variable (hsource : source.Reliable expected) (hvisits : Clear h source expected visits)
include hsource hvisits

theorem triple_listed (hvisit : visit ∈ visits) {m : Path} (hm : m ∈ visit.listed) :
    Triple expected (Holds source slack) (tryRegister source m.toString) fun result w =>
      Holds source slack w ∧ ∀ p, result = .ok p → True :=
  (triple_tryRegister hsource (hvisits.manifests visit hvisit m hm)).imp fun _ _ hw =>
    ⟨hw.1, fun _ _ => trivial⟩

theorem triple_forPackages_clear {act : Package → Action Unit}
    (hact : ∀ p, Triple expected (Holds source slack) (act p) fun _ => Holds source slack) :
    Triple expected (Holds source slack) (forPackages source act visits) fun _ =>
      Holds source slack :=
  triple_forPackages holds_log hvisits.passable
    (fun _ hvisit _ hm => triple_listed hsource hvisits hvisit hm) fun p _ => hact p

theorem triple_publishVisit (hvisit : visit ∈ visits) :
    Triple expected (Holds source slack) (publishVisit h source visit) fun _ =>
      Holds source slack := by
  refine triple_bind (triple_report holds_log _ _) fun _ => ?_
  refine triple_ofPathResult_bind (fun directory _ => ?_) (hvisits.directories visit hvisit)
  have hnode : Triple expected (Holds source slack) (addNode (directoryNode directory)) fun _ =>
      Holds source slack := triple_modify fun _ hw => hw
  refine triple_bind hnode fun _ => ?_
  refine triple_bind (triple_listedManifests holds_log (hvisits.passable visit hvisit))
    fun manifests => triple_of_fact fun hmanifests => ?_
  subst hmanifests
  refine triple_bind (triple_forManifests holds_log
    (fun m hm => triple_listed hsource hvisits hvisit hm) fun _ _ => triple_pure fun _ hw => hw)
    fun packages => triple_of_fact fun _ => ?_
  refine triple_bind (triple_forM fun p _ => triple_changeRegistry fun _ => develops_mergeAll _)
    fun _ => triple_forM fun p _ => triple_publishAndReport p

end Clear

section Below

variable (hsource : source.Reliable expected)
  (hvisits : Clear h source expected (Visit.all h ignored directory))
include hsource hvisits

theorem triple_resolveBelow :
    Triple expected (Holds source source.capacity) (resolveBelow h source ignored directory)
      fun _ => Holds source source.capacity :=
  triple_bind (triple_forPackages_clear hsource hvisits fun p => triple_resolve hsource p.manifest)
    fun _ => triple_pure fun _ hw => hw

theorem triple_repairBelow :
    Triple expected (Holds source slack) (repairBelow h source ignored directory) fun _ =>
      Holds source slack :=
  triple_bind (triple_forPackages_clear hsource hvisits fun p => triple_repair p.manifest)
    fun _ => triple_pure fun _ hw => hw

theorem triple_publishBelow :
    Triple expected (Holds source slack) (publishBelow h source ignored directory) fun _ =>
      Holds source slack :=
  triple_forM fun _ hvisit => triple_publishVisit hsource hvisits hvisit

end Below

end Workspace

end PascalWorkspace
