import PascalWorkspace.Host.Basic
import PascalWorkspace.Proofs.Except
import PascalWorkspace.Proofs.FileTree.Follows

/-! The canonical spelling of a path. A path to a place that is reached without links is canonical
as it stands, and without loops every canonical spelling is of that kind. -/
namespace PascalWorkspace

namespace Host

open FileTree

variable {h : Host} {loc : Location} {text key : String} {p q : Path} {n : Nat}

/-- What is true of every machine: the working directory is free of links, and no target of a link
holds a NUL character. -/
structure Regular (h : Host) : Prop where
  cwd : Clean h.tree h.cwd
  targets : ∀ link target, h.tree.entryAt link = some (.link target) → '\x00' ∉ target.toList

theorem Regular.clean_start (hh : h.Regular) (p : Path) : Clean h.tree (h.start p) := by
  unfold start
  split
  · exact .root
  · exact hh.cwd

/-- The absolute path of a place. -/
abbrev pathOf (loc : Location) : Path := ⟨.root, loc⟩

theorem holdsNul_eq_false : holdsNul p = false ↔ ∀ part ∈ p.parts, '\x00' ∉ part.toList := by
  simp [holdsNul]

theorem ofString_pathOf (hloc : Clean h.tree loc) :
    Path.ofString (pathOf loc).toString = pathOf loc :=
  Path.ofString_toString fun _ hpart => (hloc.isFileName hpart).toIsPart

theorem holdsNul_pathOf (hloc : Clean h.tree loc) : holdsNul (pathOf loc) = false :=
  holdsNul_eq_false.2 fun _ hpart => (hloc.isFileName hpart).noNul

theorem locate_eq_ok_iff : h.locate p = .ok loc ↔
    holdsNul p = false ∧ Follows h.tree maxLinks (h.start p) p.parts loc := by
  rw [← follow_eq_ok_iff, locate]
  cases holdsNul p with
  | true => simp
  | false =>
    cases hfollow : h.tree.locate (h.start p) p.parts <;>
      simp [FileTree.locate] at hfollow ⊢ <;> simp [hfollow]

/-- Of a path that the operating system refuses it says why. -/
theorem locate_of_refused {e : FileError} (hnul : holdsNul p = false)
    (he : h.tree.locate (h.start p) p.parts = .error e) :
    h.locate p = .error (.refused e p.toString) := by
  rw [locate, hnul, if_neg Bool.false_ne_true, he]

/-- A path that leads to a clean place has the path of that place as its absolute form. -/
theorem resolve_of_leads (hnul : holdsNul p = false) (hloc : Clean h.tree loc)
    (hleads : Leads h.tree n (h.start p) p.parts loc) : h.resolve p = .ok (pathOf loc) := by
  rw [resolve, hnul, if_neg Bool.false_ne_true, hleads.canonicalPath]
  dsimp only
  have hfollow : h.tree.locate [] loc = .ok loc ∨
      ∃ e, e ≠ .tooManyLinks ∧ h.tree.locate [] loc = .error e := follow_of_clean hloc
  obtain hok | ⟨e, hne, herror⟩ := hfollow
  · rw [hok]
  · rw [herror]
    cases e with
    | tooManyLinks => exact absurd rfl hne
    | _ => rfl

theorem resolve_pathOf (hloc : Clean h.tree loc) : h.resolve (pathOf loc) = .ok (pathOf loc) :=
  resolve_of_leads (holdsNul_pathOf hloc) hloc hloc.leads

/-- The path of a clean place is its canonical spelling. -/
theorem canonical_pathOf (hloc : Clean h.tree loc) :
    h.canonical (pathOf loc).toString = .ok (pathOf loc).toString := by
  have hexpand : h.expandHome (pathOf loc) = .ok (pathOf loc) := rfl
  rw [canonical, ofString_pathOf hloc, hexpand]
  simp only [bind, Except.bind, resolve_pathOf hloc]
  rfl

/-- Machines that differ in their file trees only have the same canonical spellings if they make the
same paths absolute in the same way. -/
theorem canonical_congr {h' : Host} (hrest : h' = { h with tree := h'.tree })
    (hresolve : ∀ p, h.resolve p = h'.resolve p) (text : String) :
    h.canonical text = h'.canonical text := by
  have hexpand : h.expandHome (Path.ofString text) = h'.expandHome (Path.ofString text) := by
    rw [hrest]
    rfl
  simp only [canonical, hexpand, hresolve]

/-- A home directory in place of a tilde brings no slash into the components. -/
theorem noSlash_of_expandHome (hp : ∀ part ∈ p.parts, '/' ∉ part.toList)
    (hok : h.expandHome p = .ok q) : ∀ part ∈ q.parts, '/' ∉ part.toList := by
  unfold expandHome at hok
  split at hok
  · next first rest hanchor hparts =>
    split at hok
    · obtain rfl := Except.ok.inj hok
      exact hp
    · split at hok
      · cases hok
      · split at hok
        · cases hok
        · next home _ =>
          dsimp only at hok
          let trimmed := String.ofList (dropSlashEnd home.toList)
          generalize (if trimmed = "" then "/" else trimmed) = directory at hok
          split at hok
          · cases hok
          · obtain rfl := Except.ok.inj hok
            intro part hpart
            obtain hpart | hpart := List.mem_append.1 hpart
            · exact (Path.isPart_of_mem_ofString hpart).noSlash
            · exact hp part (hparts ▸ List.mem_cons_of_mem _ hpart)
  · obtain rfl := Except.ok.inj hok
    exact hp

/-- Without loops the absolute form of a path is that of a clean place. -/
theorem exists_resolve (hh : h.Regular) (hloop : h.tree.LoopFree)
    (hslash : ∀ part ∈ p.parts, '/' ∉ part.toList) (hnul : holdsNul p = false) :
    ∃ loc, Clean h.tree loc ∧ h.resolve p = .ok (pathOf loc) := by
  have hsteps : ∀ part ∈ p.parts, IsStepName part := fun part hpart =>
    ⟨hslash part hpart, holdsNul_eq_false.1 hnul part hpart⟩
  obtain ⟨n, out, hleads⟩ := hloop.exists_leads (h.start p) p.parts
  have hout := hleads.clean hh.targets (hh.clean_start p) hsteps
  exact ⟨out, hout, resolve_of_leads hnul hout hleads⟩

/-- Without loops every canonical spelling is the path of a clean place. -/
theorem exists_clean_of_canonical (hh : h.Regular) (hloop : h.tree.LoopFree)
    (hok : h.canonical text = .ok key) : ∃ loc, Clean h.tree loc ∧ key = (pathOf loc).toString := by
  obtain ⟨p, hexpand, hok⟩ := bind_eq_ok_iff.1 hok
  obtain ⟨q, hresolve, hok⟩ := bind_eq_ok_iff.1 hok
  obtain rfl := Except.ok.inj hok
  cases hnul : holdsNul p with
  | true => simp [resolve, hnul] at hresolve
  | false =>
    have hslash : ∀ part ∈ p.parts, '/' ∉ part.toList :=
      noSlash_of_expandHome (fun _ hpart => (Path.isPart_of_mem_ofString hpart).noSlash) hexpand
    obtain ⟨loc, hloc, hok⟩ := exists_resolve hh hloop hslash hnul
    rw [hok] at hresolve
    exact ⟨loc, hloc, congrArg Path.toString (Except.ok.inj hresolve).symm⟩

/-- Without loops a canonical spelling is its own. -/
theorem canonical_canonical (hh : h.Regular) (hloop : h.tree.LoopFree)
    (hok : h.canonical text = .ok key) : h.canonical key = .ok key := by
  obtain ⟨loc, hloc, rfl⟩ := exists_clean_of_canonical hh hloop hok
  exact canonical_pathOf hloc

end Host

end PascalWorkspace
