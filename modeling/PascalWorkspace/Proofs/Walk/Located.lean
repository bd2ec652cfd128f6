import PascalWorkspace.Proofs.Host.Keys
import PascalWorkspace.Proofs.Walk.Tour
import PascalWorkspace.Proofs.Walk.Usable

/-! The paths that a walk comes to from a directory that exists: each leads somewhere, and what a
directory cannot be listed for is reported. -/
namespace PascalWorkspace

namespace Host

open FileTree

variable {h : Host} {loc : Location} {name : String} {names : List String} {p directory : Path}
  {ps : List Path} {ask : Path → Except PathError Bool} {e : PathError}

theorem isRefusal_of_isManifestFile (herror : h.isManifestFile p = .error e) : e.IsRefusal := by
  obtain herror | ⟨file, -, hreturn⟩ := bind_eq_error_iff.1 herror
  · exact isRefusal_of_test herror
  · cases hreturn

theorem isRefusal_of_isRealDirectory (herror : h.isRealDirectory p = .error e) : e.IsRefusal := by
  obtain herror | ⟨directory, -, hreturn⟩ := bind_eq_error_iff.1 herror
  · exact isRefusal_of_test herror
  · cases hreturn

theorem isRefusal_of_select (hask : ∀ p e, ask p = .error e → e.IsRefusal)
    (herror : select ask ps = .error e) : e.IsRefusal := by
  induction ps with
  | nil => cases herror
  | cons p rest ih =>
    obtain herror | ⟨yes, -, hrest⟩ := bind_eq_error_iff.1 herror
    · exact hask p e herror
    · obtain herror | ⟨others, -, hreturn⟩ := bind_eq_error_iff.1 hrest
      · exact ih herror
      · cases hreturn

theorem isRefusal_of_childrenWhere (hask : ∀ p e, ask p = .error e → e.IsRefusal)
    (hloc : h.locate directory = .ok loc) (herror : h.childrenWhere ask directory = .error e) :
    e.IsRefusal := by
  obtain herror | ⟨names, -, hselect⟩ := bind_eq_error_iff.1 herror
  · exact isRefusal_of_childNames hloc herror
  · obtain herror | ⟨chosen, -, hreturn⟩ := bind_eq_error_iff.1 hselect
    · exact isRefusal_of_select hask herror
    · cases hreturn

theorem exists_locate_of_isManifestFile (hp : h.isManifestFile p = .ok true) :
    ∃ loc, h.locate p = .ok loc := by
  obtain ⟨file, hfile, hreturn⟩ := bind_eq_ok_iff.1 hp
  obtain ⟨rfl, -⟩ : file = true ∧ isManifest p = true := by
    simpa using Except.ok.inj hreturn
  obtain ⟨loc, hloc, -⟩ := exists_locate_of_test hfile
  exact ⟨loc, hloc⟩

/-- A path in normal form, with a certain anchor, that leads somewhere. -/
structure Reached (h : Host) (anchor : Anchor) (p : Path) : Prop where
  anchored : p.anchor = anchor
  parts : ∀ part ∈ p.parts, Path.IsPart part
  leads : ∃ loc, h.locate p = .ok loc

theorem Reached.child {anchor : Anchor} (hdirectory : Reached h anchor directory)
    (hname : IsFileName name) (hleads : ∃ loc, h.locate (directory.child name) = .ok loc) :
    Reached h anchor (directory.child name) := by
  refine ⟨?_, ?_, hleads⟩
  · rw [Path.child_of_isPart hname.toIsPart]
    exact hdirectory.anchored
  · rw [Path.child_of_isPart hname.toIsPart]
    intro part hpart
    obtain hpart | hpart := List.mem_append.1 hpart
    · exact hdirectory.parts part hpart
    · obtain rfl := List.mem_singleton.1 hpart
      exact hname.toIsPart

end Host

namespace Visit

open FileTree Host

variable {h : Host} {extra : List String} {anchor : Anchor} {depth : Nat} {directory : Path}
  {manifests subdirectories : List Path} {visit : Visit} {e : PathError}

/-- A visit comes upon its directory and the manifests in it. -/
def Shows (visit : Visit) (p : Path) : Prop := p = visit.directory ∨ p ∈ visit.listed

/-- All that a visit comes upon leads somewhere, and the visit can be passed. -/
structure Located (h : Host) (anchor : Anchor) (visit : Visit) : Prop where
  passable : visit.Passable
  shown : ∀ p, visit.Shows p → h.Reached anchor p

theorem isRefusal_of_listing (hdirectory : h.Reached anchor directory)
    (herror : listing h directory = .error e) : e.IsRefusal := by
  obtain ⟨loc, hloc⟩ := hdirectory.leads
  obtain herror | ⟨manifests, -, hlisting⟩ := bind_eq_error_iff.1 herror
  · exact isRefusal_of_childrenWhere (fun _ _ => isRefusal_of_isManifestFile) hloc herror
  · obtain herror | ⟨subdirectories, -, hreturn⟩ := bind_eq_error_iff.1 hlisting
    · exact isRefusal_of_childrenWhere (fun _ _ => isRefusal_of_isRealDirectory) hloc herror
    · cases hreturn

/-- What is listed in a directory that is reached is reached as well. -/
theorem reached_of_listing (ht : h.tree.WellFormed) (hdirectory : h.Reached anchor directory)
    (hok : listing h directory = .ok (manifests, subdirectories)) :
    (∀ m ∈ manifests, h.Reached anchor m) ∧ ∀ d ∈ subdirectories, h.Reached anchor d := by
  obtain ⟨names, hnames, hmanifests, hsubdirectories⟩ := byName_of_listing ht hok
  obtain ⟨loc, -, -, rfl⟩ := exists_of_childNames hnames
  constructor
  · intro m hm
    obtain ⟨⟨name, hname, rfl⟩, hfile⟩ := (hmanifests.mem_iff m).1 hm
    exact hdirectory.child (ht.isFileName hname) (exists_locate_of_isManifestFile hfile)
  · intro d hd
    obtain ⟨⟨name, hname, rfl⟩, hreal⟩ := (hsubdirectories.mem_iff d).1 hd
    obtain ⟨place, hplace, -⟩ := exists_locate_of_test (isRealDirectory_eq_true hreal).1
    exact hdirectory.child (ht.isFileName hname) ⟨place, hplace⟩

/-- All visits of a walk come upon what leads somewhere if the directory that it begins at does. -/
theorem located_of_mem_below (ht : h.tree.WellFormed) (hdirectory : h.Reached anchor directory)
    (hvisit : visit ∈ below h extra depth directory) : visit.Located h anchor := by
  induction depth generalizing directory with
  | zero => cases hvisit
  | succ depth ih =>
    rw [below] at hvisit
    split at hvisit
    · cases hvisit
    · split at hvisit
      · next e hlisting =>
        obtain rfl := List.mem_singleton.1 hvisit
        refine ⟨fun fault hfault => ?_, fun p hp => ?_⟩
        · obtain rfl := Except.error.inj hfault
          exact isRefusal_of_listing hdirectory hlisting
        · obtain rfl | hp := hp
          · exact hdirectory
          · cases hp
      · next manifests subdirectories hlisting =>
        obtain ⟨hmanifests, hsubdirectories⟩ := reached_of_listing ht hdirectory hlisting
        obtain rfl | hvisit := List.mem_cons.1 hvisit
        · refine ⟨fun fault hfault => (by cases hfault), fun p hp => ?_⟩
          obtain rfl | hp := hp
          · exact hdirectory
          · exact hmanifests p hp
        · obtain ⟨d, hd, hvisit⟩ := List.mem_flatMap.1 hvisit
          exact ih (hsubdirectories d hd) hvisit

end Visit

end PascalWorkspace
