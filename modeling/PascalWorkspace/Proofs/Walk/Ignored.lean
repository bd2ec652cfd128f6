import PascalWorkspace.Proofs.Define.Values
import PascalWorkspace.Proofs.Walk.Asks
import PascalWorkspace.Proofs.Walk.Tour
import PascalWorkspace.Proofs.Walk.Usable

/-! Walks that ignore more names. They leave out the directories of these names with all that is in
them, and nothing else. -/
namespace PascalWorkspace

/-- A directory has a name that the second list ignores and the first does not. -/
def isNewlyIgnored (ignored more : List String) (directory : Path) : Bool :=
  more.contains (Text.lowercase directory.name) && !ignored.contains (Text.lowercase directory.name)

/-- A place is in a directory of a walk that is newly ignored, or below one. -/
def isCut (ignored more : List String) (visits : List Visit) (place : Path) : Bool :=
  visits.any fun v => isNewlyIgnored ignored more v.directory && v.directory.covers place

namespace Visit

open FileTree Host

variable {h : Host} {ignored more : List String} {depth : Nat} {visit : Visit} {visits : List Visit}
  {directory p q place m : Path} {manifests subdirectories : List Path}

theorem isIgnored_of_subset (hsub : ignored ⊆ more) (directory : Path) :
    isIgnored more directory = (isIgnored ignored directory ||
      isNewlyIgnored ignored more directory) := by
  unfold isIgnored isNewlyIgnored
  dsimp only
  generalize Text.lowercase directory.name = name
  have hname : ignored.contains name = true → more.contains name = true := by
    simpa using @hsub name
  cases hi : ignored.contains name with
  | true =>
    rw [hname hi]
    simp
  | false => cases more.contains name <;> simp

/-- A directory in another has its own name behind the other. -/
theorem exists_name_of_listing (ht : h.tree.WellFormed)
    (hok : listing h directory = .ok (manifests, subdirectories))
    (hp : p ∈ manifests ∨ p ∈ subdirectories) :
    ∃ name, p = { directory with parts := directory.parts ++ [name] } := by
  obtain ⟨names, hnames, hmanifests, hsubdirectories⟩ := byName_of_listing ht hok
  obtain ⟨loc, -, -, rfl⟩ := exists_of_childNames hnames
  have hchild : ∃ name ∈ h.tree.childNames loc, p = directory.child name :=
    hp.elim (fun hp => ((hmanifests.mem_iff p).1 hp).1)
      fun hp => ((hsubdirectories.mem_iff p).1 hp).1
  obtain ⟨name, hname, rfl⟩ := hchild
  exact ⟨name, Path.child_of_isPart (ht.isFileName hname).toIsPart⟩

/-- A visit below a directory is the first one, which lists manifests of the directory, or it is
below a directory in it. -/
theorem first_or_below (hvisit : visit ∈ below h ignored (depth + 1) directory) :
    (visit.directory = directory ∧ ∀ m ∈ visit.listed, ∃ manifests subdirectories,
      listing h directory = .ok (manifests, subdirectories) ∧ m ∈ manifests) ∨
    ∃ manifests subdirectories, listing h directory = .ok (manifests, subdirectories) ∧
      ∃ d ∈ subdirectories, visit ∈ below h ignored depth d := by
  rw [below] at hvisit
  split at hvisit
  · cases hvisit
  · split at hvisit
    · obtain rfl := List.mem_singleton.1 hvisit
      exact .inl ⟨rfl, fun m hm => absurd hm List.not_mem_nil⟩
    · next manifests subdirectories hlisting =>
      obtain rfl | hvisit := List.mem_cons.1 hvisit
      · exact .inl ⟨rfl, fun m hm => ⟨manifests, subdirectories, hlisting, hm⟩⟩
      · exact .inr ⟨manifests, subdirectories, hlisting, List.mem_flatMap.1 hvisit⟩

/-- A walk comes to what is below its beginning. -/
theorem covers_of_mem_below (ht : h.tree.WellFormed)
    (hvisit : visit ∈ below h ignored depth directory) :
    directory.covers visit.directory = true := by
  induction depth generalizing directory with
  | zero => cases hvisit
  | succ depth ih =>
    obtain ⟨hfirst, -⟩ | ⟨manifests, subdirectories, hlisting, d, hd, hvisit⟩ :=
      first_or_below hvisit
    · rw [hfirst]
      exact Path.covers_refl _
    · obtain ⟨name, rfl⟩ := exists_name_of_listing ht hlisting (.inr hd)
      obtain ⟨hanchor, hbelow⟩ := Path.covers_iff.1 (ih hvisit)
      exact Path.covers_iff.2 ⟨hanchor, (List.prefix_append _ _).trans hbelow⟩

/-- No place is in two directories of a directory. -/
theorem eq_of_covers (ht : h.tree.WellFormed)
    (hok : listing h directory = .ok (manifests, subdirectories)) (hp : p ∈ subdirectories)
    (hq : q ∈ subdirectories) (hplace : p.covers place = true) (hplace' : q.covers place = true) :
    p = q := by
  obtain ⟨name, rfl⟩ := exists_name_of_listing ht hok (.inr hp)
  obtain ⟨name', rfl⟩ := exists_name_of_listing ht hok (.inr hq)
  obtain ⟨-, hbelow⟩ := Path.covers_iff.1 hplace
  obtain ⟨-, hbelow'⟩ := Path.covers_iff.1 hplace'
  have hsame : directory.parts ++ [name] = directory.parts ++ [name'] :=
    (List.prefix_of_prefix_length_le hbelow hbelow' (by simp)).eq_of_length (by simp)
  rw [hsame]

/-- A directory is not below a directory in it. -/
theorem not_covers_of_listing (ht : h.tree.WellFormed)
    (hok : listing h directory = .ok (manifests, subdirectories)) (hp : p ∈ subdirectories)
    (hplace : p.covers place = true) : place.covers directory = false := by
  obtain ⟨name, rfl⟩ := exists_name_of_listing ht hok (.inr hp)
  obtain ⟨-, hbelow⟩ := Path.covers_iff.1 hplace
  rw [Bool.eq_false_iff]
  intro hcovers
  have hlength := (hbelow.trans (Path.covers_iff.1 hcovers).2).length_le
  rw [List.length_append, List.length_singleton] at hlength
  omega

theorem isCut_eq_true : isCut ignored more visits place = true ↔ ∃ v ∈ visits,
    isNewlyIgnored ignored more v.directory = true ∧ v.directory.covers place = true := by
  simp [isCut]

/-- Of a directory that is entered nothing is cut but what is cut of a directory in it. -/
theorem isCut_of_listing (ht : h.tree.WellFormed)
    (hok : listing h directory = .ok (manifests, subdirectories))
    (hdirectory : isNewlyIgnored ignored more directory = false) (hp : p ∈ subdirectories)
    (hvisit : visit ∈ below h ignored depth p) {first : Visit}
    (hfirst : first.directory = directory) :
    isCut ignored more (first :: subdirectories.flatMap (below h ignored depth)) visit.directory =
      isCut ignored more (below h ignored depth p) visit.directory := by
  rw [Bool.eq_iff_iff, isCut_eq_true, isCut_eq_true]
  constructor
  · rintro ⟨v, hv, hnew, hcovers⟩
    obtain rfl | hv := List.mem_cons.1 hv
    · rw [hfirst, hdirectory] at hnew
      cases hnew
    · obtain ⟨q, hq, hv⟩ := List.mem_flatMap.1 hv
      have hqcovers : q.covers visit.directory = true :=
        Path.covers_trans (covers_of_mem_below ht hv) hcovers
      obtain rfl := eq_of_covers ht hok hq hp hqcovers (covers_of_mem_below ht hvisit)
      exact ⟨v, hv, hnew, hcovers⟩
  · rintro ⟨v, hv, hcut⟩
    exact ⟨v, List.mem_cons_of_mem _ (List.mem_flatMap.2 ⟨p, hp, hv⟩), hcut⟩

theorem exists_first (hentered : isIgnored ignored directory = false) (depth : Nat) :
    ∃ first ∈ below h ignored (depth + 1) directory, first.directory = directory := by
  rw [below, hentered, if_neg Bool.false_ne_true]
  split
  · exact ⟨_, List.mem_singleton_self _, rfl⟩
  · exact ⟨_, List.mem_cons_self, rfl⟩

/-- Of a directory that is newly ignored everything is cut. -/
theorem isCut_of_newlyIgnored (ht : h.tree.WellFormed)
    (hentered : isIgnored ignored directory = false)
    (hnew : isNewlyIgnored ignored more directory = true)
    (hvisit : visit ∈ below h ignored depth directory) :
    isCut ignored more (below h ignored depth directory) visit.directory = true := by
  cases depth with
  | zero => cases hvisit
  | succ depth =>
    obtain ⟨first, hfirst, heq⟩ := exists_first (h := h) hentered depth
    rw [← heq] at hnew
    refine isCut_eq_true.2 ⟨first, hfirst, hnew, ?_⟩
    rw [heq]
    exact covers_of_mem_below ht hvisit

/-- A directory that is not newly ignored is not cut by itself or by what is in it. -/
theorem isCut_first (ht : h.tree.WellFormed)
    (hok : listing h directory = .ok (manifests, subdirectories))
    (hnew : isNewlyIgnored ignored more directory = false) {first : Visit}
    (hfirst : first.directory = directory) :
    isCut ignored more (first :: subdirectories.flatMap (below h ignored depth)) directory =
      false := by
  rw [Bool.eq_false_iff, ne_eq, isCut_eq_true]
  rintro ⟨v, hv, hnewly, hcovers⟩
  obtain rfl | hv := List.mem_cons.1 hv
  · rw [hfirst, hnew] at hnewly
    cases hnewly
  · obtain ⟨p, hp, hv⟩ := List.mem_flatMap.1 hv
    rw [not_covers_of_listing ht hok hp (covers_of_mem_below ht hv)] at hcovers
    cases hcovers

/-- A walk that ignores more names comes to all that the other one comes to, except what is cut. -/
theorem below_eq_filter (ht : h.tree.WellFormed) (hsub : ignored ⊆ more) (depth : Nat)
    (directory : Path) : below h more depth directory =
      (below h ignored depth directory).filter fun v =>
        !isCut ignored more (below h ignored depth directory) v.directory := by
  induction depth generalizing directory with
  | zero => rfl
  | succ depth ih =>
    have hignored := isIgnored_of_subset hsub directory
    cases hold : isIgnored ignored directory with
    | true => simp [below, hignored, hold]
    | false =>
      rw [hold, Bool.false_or] at hignored
      cases hnew : isNewlyIgnored ignored more directory with
      | true =>
        rw [below, hignored, hnew, if_pos rfl, eq_comm, List.filter_eq_nil_iff]
        intro v hv
        rw [isCut_of_newlyIgnored ht hold hnew hv]
        exact Bool.false_ne_true
      | false =>
        rw [below, below, hignored, hnew, hold, if_neg Bool.false_ne_true,
          if_neg Bool.false_ne_true]
        cases hlisting : listing h directory with
        | error e =>
          symm
          simp [isCut, hnew]
        | ok found =>
          obtain ⟨manifests, subdirectories⟩ := found
          dsimp only
          have hfirst : isCut ignored more (⟨directory, .ok manifests⟩ ::
              subdirectories.flatMap (below h ignored depth)) directory = false :=
            isCut_first ht hlisting hnew rfl
          rw [List.filter_cons_of_pos (by rw [hfirst]; rfl), List.filter_flatMap]
          refine congrArg _ (List.flatMap_congr fun p hp => ?_)
          rw [ih p]
          refine List.filter_congr fun v hv => ?_
          rw [isCut_of_listing ht hlisting hnew hp hv rfl]

theorem parent_of_listed (ht : h.tree.WellFormed) (hvisit : visit ∈ below h ignored depth directory)
    (hm : m ∈ visit.listed) : m.parent = visit.directory := by
  induction depth generalizing directory with
  | zero => cases hvisit
  | succ depth ih =>
    obtain ⟨hfirst, hlisted⟩ | ⟨manifests, subdirectories, hlisting, d, -, hvisit⟩ :=
      first_or_below hvisit
    · obtain ⟨manifests, subdirectories, hlisting, hm⟩ := hlisted m hm
      obtain ⟨name, rfl⟩ := exists_name_of_listing ht hlisting (.inl hm)
      rw [Path.parent, List.dropLast_concat, hfirst]
    · exact ih hvisit

/-- The manifests on the way that are not cut are those of the directories that are not. -/
theorem listed_eq_filter (ht : h.tree.WellFormed) (hsub : ignored ⊆ more) (directory : Path) :
    (all h more directory).flatMap listed =
      ((all h ignored directory).flatMap listed).filter fun m =>
        !isCut ignored more (all h ignored directory) m.parent := by
  have hkept : all h more directory = (all h ignored directory).filter fun v =>
      !isCut ignored more (all h ignored directory) v.directory := below_eq_filter ht hsub _ _
  have hparent : ∀ v ∈ all h ignored directory, ∀ m ∈ v.listed, m.parent = v.directory :=
    fun v hv m hm => parent_of_listed ht hv hm
  rw [hkept]
  generalize isCut ignored more (all h ignored directory) = cut
  generalize all h ignored directory = visits at hparent ⊢
  induction visits with
  | nil => rfl
  | cons v visits ih =>
    obtain ⟨hv, hvisits⟩ := List.forall_mem_cons.1 hparent
    rw [List.flatMap_cons, List.filter_append, ← ih hvisits]
    cases hcut : cut v.directory with
    | true =>
      have hnone : v.listed.filter (fun m => !cut m.parent) = [] :=
        List.filter_eq_nil_iff.2 fun m hm => by rw [hv m hm, hcut]; exact Bool.false_ne_true
      rw [hnone, List.filter_cons_of_neg (by rw [hcut]; exact Bool.false_ne_true), List.nil_append]
    | false =>
      have hsame : v.listed.filter (fun m => !cut m.parent) = v.listed :=
        List.filter_eq_self.2 fun m hm => by rw [hv m hm, hcut]; rfl
      rw [hsame, List.filter_cons_of_pos (by rw [hcut]; rfl), List.flatMap_cons]

end Visit

namespace Workspace

open Host Operation Registry Visit

variable {source : ManifestSource} {h : Host} {ignored more : List String} {directory : Path}
  {act : Package → Action Unit} {manifests : List Path} {packages : List Package} {m : Path}
  {w v : Workspace}

/-- Every manifest that a walk has asked for was answered. -/
theorem Asks.answerable (h : Asks source act manifests packages w v)
    (hact : ∀ p, Keeps (OnRegistry (Gains source.package?)) (act p))
    (hw : Readable source w.registry) : ∀ m ∈ manifests, Answerable source m.toString := by
  induction h with
  | done => exact List.forall_mem_nil _
  | @refused m rest packages w u x v reason hidle hask _ ih =>
    have hx : Readable source x.registry :=
      (hw.idle hidle).gains ((gains_tryRegister source m.toString).of_outcome hask)
    obtain ⟨key, place, fault, hkey, -, hread, -⟩ := refused_tryRegister hask
    exact List.forall_mem_cons.2 ⟨⟨key, hkey, .inr ⟨place, fault, hread⟩⟩, ih hx⟩
  | @met m rest packages w u x y v p hidle hask hrun _ ih =>
    have hx : Readable source x.registry :=
      (hw.idle hidle).gains ((gains_tryRegister source m.toString).of_outcome hask)
    have hy : Readable source y.registry := hx.gains ((hact p).of_outcome hrun)
    obtain ⟨hkey, -, hfind⟩ := admits_tryRegister hask
    have hread := hx p.manifest (isSome_find?_iff_mem.1 (by simp [hfind]))
    refine List.forall_mem_cons.2 ⟨⟨p.manifest, hkey, .inl ?_⟩, ih hy⟩
    cases hmanifest : source.read p.manifest with
    | ok manifest => exact ⟨manifest, rfl⟩
    | error e => simp [ManifestSource.package?, hmanifest, Except.toOption] at hread

/-- Ignoring more names only removes packages from those that a walk yields, and it removes those of
the manifests that are in or below a directory of the walk with such a name. The walk still ends
well. -/
theorem packagesBelow_of_ignoring (h : Host) (ht : h.tree.WellFormed) (source : ManifestSource)
    {ignored more : List String} (hsub : ignored ⊆ more) (directory : Path) {w v : Workspace}
    {packages : List Package} (hfresh : w.registry = {})
    (hok : outcome (packagesBelow h source ignored directory) w = (.ok packages, v)) :
    let visits := Visit.all h ignored directory
    let files := visits.flatMap Visit.listed
    ∃ fewer u, outcome (packagesBelow h source more directory) w = (.ok fewer, u) ∧
      (fewer.map (·.manifest)).Sublist (packages.map (·.manifest)) ∧
      packages.map (·.manifest) = files.filterMap source.accepted? ∧
      fewer.map (·.manifest) =
        (files.filter fun m => !isCut ignored more visits m.parent).filterMap source.accepted? := by
  intro visits files
  have hidle : ∀ p : Package, Keeps (OnRegistry (Gains source.package?))
      ((fun _ => pure ()) p : Action Unit) := fun _ => keeps_pure _
  have hreadable : Readable source w.registry := hfresh ▸ readable_empty source
  have hasks := asks_forPackages hok
  have hkept : ∀ visit ∈ Visit.all h more directory, visit ∈ Visit.all h ignored directory := by
    rw [Visit.all, below_eq_filter ht hsub]
    exact fun visit hvisit => List.mem_of_mem_filter hvisit
  have hends : Triple Never (fun _ => True) (packagesBelow h source more directory)
      fun _ _ => True := by
    refine triple_forPackages (Q := fun _ => True) (fun _ _ _ => trivial)
      (fun visit hvisit => (usable_of_forPackages hok visit (hkept visit hvisit)).1)
      (fun visit hvisit m hm => ?_) fun p _ => failsAs_pure _
    have hanswerable := hasks.answerable hidle hreadable m
      (List.mem_flatMap.2 ⟨visit, hkept visit hvisit, hm⟩)
    exact (failsAs_tryRegister_of_answerable hanswerable).imp
      fun _ _ _ => ⟨trivial, fun _ _ => trivial⟩
  obtain ⟨fewer, u, hfewer, -⟩ := hends.exists_ok trivial
  have hyields := hasks.yields hidle hreadable
  have hothers := (asks_forPackages hfewer).yields hidle hreadable
  rw [listed_eq_filter ht hsub] at hothers
  refine ⟨fewer, u, hfewer, ?_, hyields, hothers⟩
  rw [hyields, hothers]
  exact List.filter_sublist.filterMap _

/-- A machine with a manifest in a directory and another one in a directory in it. -/
def shelfHost : Host where
  tree := ⟨[(["b.lpk"], .file []), (["Old"], .directory), (["Old", "a.lpk"], .file [])]⟩
  cwd := []
  environment := []
  homes := []

def shelfRoot : Path := ⟨.root, []⟩

def shelfOld : Path := ⟨.root, ["Old"]⟩

theorem locate_shelf :
    shelfHost.locate shelfRoot = .ok [] ∧ shelfHost.locate shelfOld = .ok ["Old"] ∧
    shelfHost.locate (shelfRoot.child "b.lpk") = .ok ["b.lpk"] ∧
    shelfHost.locate (shelfOld.child "a.lpk") = .ok ["Old", "a.lpk"] := by
  have hchild : shelfRoot.child "b.lpk" = ⟨.root, ["b.lpk"]⟩ ∧
    shelfOld.child "a.lpk" = ⟨.root, ["Old", "a.lpk"]⟩ := by decide
  rw [hchild.1, hchild.2]
  refine ⟨?_, ?_, ?_, ?_⟩ <;>
  · simp [shelfRoot, shelfOld, shelfHost, Host.locate, Host.start, FileTree.locate, FileTree.follow,
      FileTree.entryAt, FileTree.maxNameBytes, Path.isAbsolute]
    try decide

theorem listing_shelf :
    listing shelfHost shelfRoot = .ok ([shelfRoot.child "b.lpk"], [shelfOld]) ∧
    listing shelfHost shelfOld = .ok ([shelfOld.child "a.lpk"], []) := by
  obtain ⟨hroot, hold, hfile, hfile'⟩ := locate_shelf
  have hnames : shelfHost.childNames shelfRoot = .ok ["b.lpk", "Old"] := by
    rw [Host.childNames, hroot]
    decide
  have hnames' : shelfHost.childNames shelfOld = .ok ["a.lpk"] := by
    rw [Host.childNames, hold]
    decide
  have hchild : shelfRoot.child "Old" = shelfOld := by decide
  have hentries : shelfHost.tree.entryAt ["b.lpk"] = some (.file []) ∧
    shelfHost.tree.entryAt ["Old"] = some .directory ∧
    shelfHost.tree.entryAt ["Old", "a.lpk"] = some (.file []) := by decide
  have hmanifests : isManifest (shelfRoot.child "b.lpk") = true ∧ isManifest shelfOld = false ∧
    isManifest (shelfOld.child "a.lpk") = true := by decide
  have hname : shelfOld.parent = shelfRoot ∧ shelfOld.name = "Old" := by decide
  simp [listing, manifestsIn, subdirectoriesOf, childrenWhere, select, isManifestFile,
    isRealDirectory, isFile, isDirectory, isLink, test, entry?, bind, Except.bind, pure,
    Except.pure, *]

theorem visits_shelf : Visit.all shelfHost [] shelfRoot =
    [⟨shelfRoot, .ok [shelfRoot.child "b.lpk"]⟩, ⟨shelfOld, .ok [shelfOld.child "a.lpk"]⟩] := by
  have hdepth : shelfHost.tree.depth = 2 := by decide
  have hroot : isIgnored [] shelfRoot = false := by decide
  have hold : isIgnored [] shelfOld = false := by decide
  simp [Visit.all, hdepth, below, listing_shelf, hroot, hold]

/-- Every manifest is spelled right and can be read. -/
def shelfSource : ManifestSource where
  canonical := .ok
  read _ := .ok ⟨"A", "/", ⟨[], [], []⟩, []⟩
  capacity := 2

/-- With the name of the inner directory ignored only the outer manifest is left. -/
theorem packagesBelow_of_ignoring_shelf :
    shelfHost.tree.WellFormed ∧ ({} : Workspace).registry = {} ∧ ∃ packages v fewer u,
      outcome (packagesBelow shelfHost shelfSource [] shelfRoot) {} = (.ok packages, v) ∧
      packages.map (·.manifest) = ["/b.lpk", "/Old/a.lpk"] ∧
      outcome (packagesBelow shelfHost shelfSource ["old"] shelfRoot) {} = (.ok fewer, u) ∧
      fewer.map (·.manifest) = ["/b.lpk"] := by
  have ht : shelfHost.tree.WellFormed := by decide
  obtain ⟨packages, v, hok⟩ : ∃ packages v,
      outcome (packagesBelow shelfHost shelfSource [] shelfRoot) {} = (.ok packages, v) := by
    rw [packagesBelow, visits_shelf]
    exact ⟨_, _, rfl⟩
  obtain ⟨fewer, u, hfewer, -, hall, hkept⟩ :=
    packagesBelow_of_ignoring shelfHost ht shelfSource (List.nil_subset ["old"]) shelfRoot rfl hok
  refine ⟨ht, rfl, packages, v, fewer, u, hok, ?_, hfewer, ?_⟩
  · rw [hall, visits_shelf]
    decide +kernel
  · rw [hkept, visits_shelf]
    decide +kernel

end Workspace

end PascalWorkspace
