import PascalWorkspace.Proofs.Except
import PascalWorkspace.Proofs.FileTree.Bound
import PascalWorkspace.Proofs.FileTree.Spelling
import PascalWorkspace.Proofs.Host.Entries

/-! Which paths have a canonical spelling, and which of these can be read. A path that leads to a
file or to a directory has one. There are no more spellings under which a file can be read than the
tree has room for. -/
namespace PascalWorkspace

/-- A path that is expanded to a home directory. -/
def Path.BeginsWithTilde (p : Path) : Prop :=
  p.anchor = .relative ∧ ∃ first ∈ p.parts.head?, first.toList.head? = some '~'

theorem Path.Spelled.ofString_toString {p : Path} (hp : p.Spelled) :
    Path.ofString p.toString = p :=
  Path.ofString_toString fun part hpart => (hp.names part hpart).toIsPart

theorem Path.absolute_ofString_toString {p : Path} (hp : p.anchor ≠ .relative) :
    (Path.ofString p.toString).anchor ≠ .relative := by
  refine Path.anchorOfChars_ne_relative ?_
  obtain ⟨anchor, parts⟩ := p
  cases anchor with
  | relative => exact absurd rfl hp
  | root => rw [Path.toString_root, Path.toList_slash, List.head?_cons]
  | doubleRoot =>
    have htext : (⟨.doubleRoot, parts⟩ : Path).toString = "/" ++ ("/" ++ "/".intercalate parts) := by
      rw [← String.append_assoc]
      rfl
    rw [htext, Path.toList_slash, List.head?_cons]

theorem Path.Spelled.toString_ne_empty {p : Path} (hp : p.Spelled) : p.toString ≠ "" := by
  obtain ⟨anchor, parts⟩ := p
  have habsolute : anchor ≠ .relative := hp.absolute
  cases anchor with
  | relative => exact absurd rfl habsolute
  | root => simp [Path.toString, Path.anchorText]
  | doubleRoot => simp [Path.toString, Path.anchorText]

theorem Path.Spelled.not_beginsWithTilde {p : Path} (hp : p.Spelled) : ¬ p.BeginsWithTilde :=
  fun htilde => hp.absolute htilde.1

namespace Host

open FileTree

variable {h : Host} {loc : Location} {text key : String} {p q : Path} {bytes : List UInt8}

theorem holdsNul_of_spelled (hp : p.Spelled) : holdsNul p = false :=
  holdsNul_eq_false.2 fun part hpart => (hp.names part hpart).noNul

theorem start_of_spelled (hp : p.Spelled) : h.start p = [] := by
  have habsolute : p.isAbsolute = true := by simpa [Path.isAbsolute] using hp.absolute
  rw [start, habsolute, if_pos rfl]

/-- A path without a tilde in front stays as it is. -/
theorem expandHome_eq_self (hp : ¬ p.BeginsWithTilde) : h.expandHome p = .ok p := by
  unfold expandHome
  split
  · next first rest hanchor hparts =>
    have hhead : first.toList.head? ≠ some '~' := fun hhead =>
      hp ⟨hanchor, first, by rw [hparts, List.head?_cons]; rfl, hhead⟩
    rw [if_pos hhead]
  · rfl

theorem canonical_of_resolve (htilde : ¬ (Path.ofString text).BeginsWithTilde)
    (hok : h.resolve (Path.ofString text) = .ok p) : h.canonical text = .ok p.toString := by
  rw [canonical, expandHome_eq_self htilde]
  simp only [bind, Except.bind, hok]
  rfl

/-- A home directory that is asked for may be unknown, and none has a NUL character in its name. -/
theorem expandHome_eq_error (he : h.expandHome p = .error e) :
    e = .homeUnknown ∨ e = .holdsNul ∧ holdsNul p = true := by
  unfold expandHome at he
  dsimp only at he
  split at he
  · next first rest hanchor hparts =>
    split at he
    · cases he
    · split at he
      · next hnul =>
        refine .inr ⟨(Except.error.inj he).symm, ?_⟩
        rw [holdsNul, hparts, List.any_cons, hnul, Bool.true_or]
      · split at he
        · exact .inl (Except.error.inj he).symm
        · next home _ =>
          let trimmed := String.ofList (dropSlashEnd home.toList)
          generalize (if trimmed = "" then "/" else trimmed) = directory at he
          split at he
          · exact .inl (Except.error.inj he).symm
          · cases he
  · cases he

/-- An absolute path has no canonical spelling for a NUL character or a loop. -/
theorem canonical_eq_error (habsolute : (Path.ofString text).isAbsolute = true)
    (he : h.canonical text = .error e) :
    e = .holdsNul ∧ holdsNul (Path.ofString text) = true ∨ ∃ place, e = .linkLoop place := by
  have htilde : ¬ (Path.ofString text).BeginsWithTilde := by
    rintro ⟨hrelative, -⟩
    simp [Path.isAbsolute, hrelative] at habsolute
  rw [canonical, expandHome_eq_self htilde] at he
  obtain he | ⟨p, -, hreturn⟩ := bind_eq_error_iff.1 (show h.resolve _ >>= _ = _ from he)
  · unfold resolve at he
    split at he
    · next hnul => exact .inl ⟨(Except.error.inj he).symm, hnul⟩
    · dsimp only at he
      split at he
      · exact .inr ⟨_, (Except.error.inj he).symm⟩
      · cases he
  · cases hreturn

/-- Without loops no path leads to one. -/
theorem canonical_ne_linkLoop (hh : h.Regular) (hloop : h.tree.LoopFree) {place : String} :
    h.canonical text ≠ .error (.linkLoop place) := by
  intro he
  obtain hexpand | ⟨p, hexpand, he⟩ := bind_eq_error_iff.1 (show h.expandHome _ >>= _ = _ from he)
  · obtain hunknown | ⟨hholds, -⟩ := expandHome_eq_error hexpand
    · cases hunknown
    · cases hholds
  · obtain hresolve | ⟨q, -, hreturn⟩ := bind_eq_error_iff.1 (show h.resolve p >>= _ = _ from he)
    · cases hnul : holdsNul p with
      | true => simp [resolve, hnul] at hresolve
      | false =>
        have hslash : ∀ part ∈ p.parts, '/' ∉ part.toList :=
          noSlash_of_expandHome (fun _ hpart => (Path.isPart_of_mem_ofString hpart).noSlash) hexpand
        obtain ⟨loc, -, hok⟩ := exists_resolve hh hloop hslash hnul
        cases hok.symm.trans hresolve
    · cases hreturn

/-- The absolute form of a path is a spelling. -/
theorem spelled_of_resolve (hh : h.Regular) (hp : ∀ part ∈ p.parts, '/' ∉ part.toList)
    (hok : h.resolve p = .ok q) : q.Spelled := by
  unfold resolve at hok
  split at hok
  · cases hok
  · next hnul =>
    have hnul : ∀ part ∈ p.parts, '\x00' ∉ part.toList :=
      holdsNul_eq_false.1 (Bool.eq_false_iff.2 hnul)
    have hspelled : (h.tree.canonicalPath h.cwd p).Spelled := by
      refine Legible.spelled hh.targets ⟨fun name hname => ?_, by simp, fun name hname => ?_⟩
      · split at hname
        · cases hname
        · exact hh.cwd.isFileName hname
      · obtain ⟨part, hpart, heq⟩ := List.mem_map.1 hname
        obtain rfl := Task.step.inj heq
        exact ⟨hp part hpart, hnul part hpart⟩
    dsimp only at hok
    split at hok
    · cases hok
    · obtain rfl := Except.ok.inj hok
      exact hspelled

/-- A canonical spelling is absolute on every machine. -/
theorem absolute_of_canonical (hok : h.canonical text = .ok key) :
    (Path.ofString key).anchor ≠ .relative := by
  obtain ⟨p, -, hok⟩ := bind_eq_ok_iff.1 hok
  obtain ⟨q, hresolve, hok⟩ := bind_eq_ok_iff.1 hok
  obtain rfl := Except.ok.inj hok
  refine Path.absolute_ofString_toString ?_
  unfold resolve at hresolve
  split at hresolve
  · cases hresolve
  · dsimp only at hresolve
    split at hresolve
    · cases hresolve
    · obtain rfl := Except.ok.inj hresolve
      exact trace_absolute _ _ _ _ _

theorem exists_spelled_of_canonical (hh : h.Regular) (hok : h.canonical text = .ok key) :
    ∃ p : Path, p.Spelled ∧ key = p.toString := by
  obtain ⟨p, hexpand, hok⟩ := bind_eq_ok_iff.1 hok
  obtain ⟨q, hresolve, hok⟩ := bind_eq_ok_iff.1 hok
  have hslash : ∀ part ∈ p.parts, '/' ∉ part.toList :=
    noSlash_of_expandHome (fun _ hpart => (Path.isPart_of_mem_ofString hpart).noSlash) hexpand
  exact ⟨q, spelled_of_resolve hh hslash hresolve, (Except.ok.inj hok).symm⟩

theorem canonical_ne_empty (hh : h.Regular) : h.canonical text ≠ .ok "" := by
  intro hok
  obtain ⟨p, hp, hempty⟩ := exists_spelled_of_canonical hh hok
  exact hp.toString_ne_empty hempty.symm

/-- The canonical spelling of a path that leads somewhere is the path of the place. -/
theorem canonical_of_locate (hh : h.Regular) (hparts : ∀ part ∈ p.parts, Path.IsPart part)
    (htilde : ¬ p.BeginsWithTilde) (hloc : h.locate p = .ok loc) :
    Clean h.tree loc ∧ h.canonical p.toString = .ok (pathOf loc).toString := by
  obtain ⟨hnul, hfollows⟩ := locate_eq_ok_iff.1 hloc
  have hempty : "" ∉ p.parts := fun hmem => absurd (hparts _ hmem).plain (by decide)
  obtain ⟨n, hleads⟩ := hfollows.leads hempty
  have hclean : Clean h.tree loc := hleads.clean hh.targets (hh.clean_start p) fun part hpart =>
    ⟨(hparts part hpart).noSlash, holdsNul_eq_false.1 hnul part hpart⟩
  refine ⟨hclean, ?_⟩
  rw [canonical, Path.ofString_toString hparts, expandHome_eq_self htilde]
  simp only [bind, Except.bind, resolve_of_leads hnul hclean hleads]
  rfl

/-- A path that leads somewhere has a canonical spelling. -/
theorem exists_canonical_of_locate (hh : h.Regular) (hparts : ∀ part ∈ p.parts, Path.IsPart part)
    (htilde : ¬ p.BeginsWithTilde) (hloc : h.locate p = .ok loc) :
    ∃ key, h.canonical p.toString = .ok key :=
  ⟨_, (canonical_of_locate hh hparts htilde hloc).2⟩

/-- There are no more spellings under which a file can be read than the bound says. -/
theorem length_le_pathBound {keys : List String} (hnodup : keys.Nodup)
    (hkeys : ∀ key ∈ keys, ∃ p : Path, ∃ bytes, p.Spelled ∧ key = p.toString ∧
      h.readFile p = .ok bytes) : keys.length ≤ h.tree.pathBound := by
  have hpath : ∀ key ∈ keys, (Path.ofString key).Spelled ∧ (Path.ofString key).toString = key ∧
      ∃ out, h.tree.locate [] (Path.ofString key).parts = .ok out := by
    intro key hkey
    obtain ⟨p, bytes, hp, rfl, hread⟩ := hkeys key hkey
    obtain ⟨loc, hloc⟩ := exists_locate_of_readFile hread
    have hfollows := (locate_eq_ok_iff.1 hloc).2
    rw [start_of_spelled hp] at hfollows
    rw [hp.ofString_toString]
    exact ⟨hp, rfl, loc, follow_eq_ok_iff.2 hfollows⟩
  have hnodup : (keys.map Path.ofString).Nodup := by
    refine List.Nodup.map_on (fun key hkey other hother heq => ?_) hnodup
    rw [← (hpath key hkey).2.1, ← (hpath other hother).2.1, heq]
  rw [← List.length_map Path.ofString]
  refine FileTree.length_le_pathBound hnodup ?_ ?_ ?_ <;>
    refine List.forall_mem_map.2 fun key hkey => ?_
  · exact (hpath key hkey).1.absolute
  · exact fun name hname => ((hpath key hkey).1.names name hname).toGoesDown
  · exact (hpath key hkey).2.2

end Host

end PascalWorkspace
