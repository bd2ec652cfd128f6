import PascalWorkspace.Proofs.Session.Values
import PascalWorkspace.Proofs.Walk.Asks
import PascalWorkspace.Proofs.Walk.Tour

/-! The three walks of a scan ask for the same manifests in the same order, whatever each of them
does with the packages. -/
namespace PascalWorkspace

namespace Workspace

open Operation Registry Visit

variable {source : ManifestSource} {act : Package → Action Unit} {h : Host}
  {files : List Path} {packages : List Package} {visits : List Visit} {w v : Workspace}
  {ignored : List String} {directory : Path}

/-- A run asks for some manifests in turn and gets the packages of those that can be read, if this
holds of all manifests that were registered before. -/
structure WalksOver (source : ManifestSource) (act : Package → Action Unit) (files : List Path)
    (packages : List Package) (w v : Workspace) : Prop where
  asks : Asks source act files packages w v
  yields : Readable source w.registry →
    packages.map (·.manifest) = files.filterMap source.accepted?

theorem Asks.walksOver (hasks : Asks source act files packages w v)
    (hact : ∀ p, Keeps (OnRegistry (Gains source.package?)) (act p)) :
    WalksOver source act files packages w v :=
  ⟨hasks, hasks.yields hact⟩

/-- Nothing is registered by a run that begins when all manifests registered in `v` are. -/
def RegistersNone {α : Type} (act : Action α) (v : Workspace) : Prop :=
  ∀ u : Workspace, (∀ key, (v.registry.find? key).isSome → (u.registry.find? key).isSome) →
    SameManifests u.registry (after act u).registry

theorem registersNone_of_closed {α : Type} {act : Action α}
    (hact : Keeps (OnRegistry (Closed v.registry)) act) : RegistersNone act v :=
  fun u hu => hact u hu

/-- All walks below a directory make the same tour, of which there is only one. It comes to the
manifests in the directories that are reached by going down. After the first walk has dealt with
them all, the others register nothing. -/
theorem walks_agree (h : Host) (ht : h.tree.WellFormed) (source : ManifestSource)
    (ignored : List String) (directory : Path) :
    ∃ files, Tour h ignored [directory] files ∧
      (∀ others, Tour h ignored [directory] others → others = files) ∧
      (∀ m, m ∈ files ↔ Enters h ignored directory ∧ ∃ d,
        Relation.ReflTransGen (Down h ignored) directory d ∧ HasChild h d m ∧
        h.isManifestFile m = .ok true) ∧
      (∀ w v packages, outcome (packagesBelow h source ignored directory) w = (.ok packages, v) →
        WalksOver source (fun _ => pure ()) files packages w v) ∧
      (∀ w v found, outcome (resolveBelow h source ignored directory) w = (.ok found, v) →
        (∃ packages, packages.length = found ∧
          WalksOver source (fun p => resolve source p.manifest) files packages w v) ∧
        RegistersNone (repairBelow h source ignored directory) v ∧
        RegistersNone (publishBelow h source ignored directory) v) ∧
      (∀ w v found, outcome (repairBelow h source ignored directory) w = (.ok found, v) →
        ∃ packages, packages.length = found ∧
          WalksOver source (fun p => repair p.manifest) files packages w v) ∧
      ∀ w v, outcome (publishBelow h source ignored directory) w = (.ok (), v) →
        ∃ packages, WalksOver source (fun _ => pure ()) files packages w v := by
  have htour := tour_all ht ignored directory
  have hidle : ∀ p : Package, Keeps (OnRegistry (Gains source.package?))
      ((fun _ => pure ()) p : Action Unit) := fun _ => keeps_pure _
  refine ⟨_, htour, fun others hothers => hothers.unique htour, fun m => ?_, ?_, ?_, ?_, ?_⟩
  · rw [htour.mem_iff]
    simp
  · intro w v packages hok
    exact (asks_forPackages hok).walksOver hidle
  · intro w v found hok
    obtain ⟨packages, u, hwalk, hreturn⟩ := outcome_bind_eq_ok hok
    obtain ⟨hfound, rfl⟩ := Prod.mk.inj hreturn
    have hact : ∀ p : Package, Keeps (OnRegistry (Gains source.package?))
        (resolve source p.manifest) := fun p =>
      absorbed_resolve (absorbs_gains source) p.manifest
    have hheard := heard_of_forPackages hact hwalk
    exact ⟨⟨packages, Except.ok.inj hfound, (asks_forPackages hwalk).walksOver hact⟩,
      registersNone_of_closed (closed_repairBelow hheard),
      registersNone_of_closed (closed_publishBelow hheard)⟩
  · intro w v found hok
    obtain ⟨packages, u, hwalk, hreturn⟩ := outcome_bind_eq_ok hok
    obtain ⟨hfound, rfl⟩ := Prod.mk.inj hreturn
    exact ⟨packages, Except.ok.inj hfound,
      (asks_forPackages hwalk).walksOver fun p =>
        absorbed_repair (absorbs_gains source) p.manifest⟩
  · intro w v hok
    obtain ⟨packages, hasks⟩ := asks_publishVisits hok
    exact ⟨packages, hasks.walksOver hidle⟩

open Session

/-- The walks come to one manifest, and the first of them gets its package. -/
theorem walks_agree_loop :
    loopHost.tree.WellFormed ∧ ∃ v, outcome (resolveBelow loopHost loopSource [] loopRoot) {} =
      (.ok 1, v) ∧ ∃ p, Asks loopSource (fun p => resolve loopSource p.manifest) [loopFile] [p] {} v ∧
        loopSource.accepted? loopFile = some p.manifest ∧
        RegistersNone (repairBelow loopHost loopSource [] loopRoot) v ∧
        RegistersNone (publishBelow loopHost loopSource [] loopRoot) v := by
  obtain ⟨files, -, hunique, -, -, hresolve, -⟩ :=
    walks_agree loopHost wellFormed_loop loopSource [] loopRoot
  have htour := tour_all wellFormed_loop [] loopRoot
  rw [visits_loop] at htour
  obtain rfl : [loopFile] = files := hunique _ htour
  obtain ⟨defines, log, hok⟩ := outcome_of_reached resolve_loop
  obtain ⟨⟨packages, hlength, hwalk⟩, hrepair, hpublish⟩ := hresolve _ _ _ hok
  obtain ⟨p, rfl⟩ := List.length_eq_one_iff.1 hlength
  have hyields := hwalk.yields (readable_empty loopSource)
  have haccepted : loopSource.accepted? loopFile = some p.manifest := by
    cases haccepted : loopSource.accepted? loopFile with
    | none => simp [List.filterMap_cons_none haccepted] at hyields
    | some key => simpa [List.filterMap_cons_some haccepted, eq_comm] using hyields
  exact ⟨wellFormed_loop, _, hok, p, hwalk.asks, haccepted, hrepair, hpublish⟩

/-! ### A directory that cannot be listed -/

open FileTree Host

/-- A machine with a manifest in a directory, and a link beside it. -/
def linkHost (target : String) : Host where
  tree := ⟨[(["w"], .directory), (["w", "a.lpk"], .file []), (["w", "z"], .link target)]⟩
  cwd := []
  environment := []
  homes := []

def linkRoot : Path := ⟨.root, ["w"]⟩

def linkFile : Path := ⟨.root, ["w", "a.lpk"]⟩

def linkSource (target : String) : ManifestSource :=
  .ofTable (linkHost target) [("/w/a.lpk", ⟨"A", "/w", ⟨[], [], []⟩, []⟩)]

section Long

variable {target : String}

theorem targetSteps_of_isPart (hpart : Path.IsPart target) : targetSteps target = [target] := by
  have hpieces : Path.pieces target = [target] := by
    have hjoined : Path.pieces ("/".intercalate [target]) = [target] :=
      Path.pieces_intercalate (List.cons_ne_nil _ _) (by simpa using hpart.noSlash)
    rwa [String.intercalate_singleton] at hjoined
  have hlast : target.toList.getLast? ≠ some '/' := fun hlast =>
    hpart.noSlash (List.mem_of_getLast? hlast)
  have hne : target ≠ "" := by
    rintro rfl
    exact absurd hpart.plain (by decide)
  simp [targetSteps, hpieces, hlast, hne]

/-- A link to a name that is too long is refused by the operating system. -/
theorem locate_link (hpart : Path.IsPart target) (hlong : maxNameBytes < target.utf8ByteSize) :
    (linkHost target).tree.locate [] ["w", "z"] = .error .nameTooLong := by
  have hrooted : isRooted target = false := by
    rw [isRooted, Path.ofString_of_isPart hpart]
    rfl
  have hdot : target ≠ "." := by
    rintro rfl
    exact absurd hpart.plain (by decide)
  have hup : target ≠ ".." := by
    rintro rfl
    exact absurd hlong (by decide)
  have hroot : (linkHost target).tree.entryAt [] = some .directory := rfl
  have hw : (linkHost target).tree.entryAt ["w"] = some .directory := rfl
  have hz : (linkHost target).tree.entryAt ["w", "z"] = some (.link target) := rfl
  simp [FileTree.locate, FileTree.follow, hroot, hw, hz, hrooted, targetSteps_of_isPart hpart,
    hdot, hup, hlong, maxLinks]

theorem locate_beside (target : String) : (linkHost target).locate linkRoot = .ok ["w"] ∧
    (linkHost target).locate linkFile = .ok ["w", "a.lpk"] := by
  constructor <;>
  · simp [linkRoot, linkFile, linkHost, Host.locate, Host.start, FileTree.locate, FileTree.follow,
      FileTree.entryAt, FileTree.maxNameBytes, Path.isAbsolute]
    decide

theorem canonical_beside (target : String) :
    (linkHost target).canonical linkRoot.toString = .ok "/w" ∧
      (linkHost target).canonical linkFile.toString = .ok "/w/a.lpk" := by
  constructor <;> cbv

theorem isManifestFile_beside (target : String) :
    (linkHost target).isManifestFile linkFile = .ok true := by
  rw [Host.isManifestFile, Host.isFile, Host.test, Host.entry?, (locate_beside target).2]
  cbv

theorem childNames_link (target : String) :
    (linkHost target).childNames linkRoot = .ok ["a.lpk", "z"] := by
  rw [Host.childNames, (locate_beside target).1]
  rfl

/-- So the directory of the link cannot be listed. -/
theorem visits_link (hpart : Path.IsPart target) (hlong : maxNameBytes < target.utf8ByteSize) :
    Visit.all (linkHost target) [] linkRoot =
      [⟨linkRoot, .error (.refused .nameTooLong "/w/z")⟩] := by
  have htext : (⟨.root, ["w", "z"]⟩ : Path).toString = "/w/z" := by decide
  have hlocate : (linkHost target).locate ⟨.root, ["w", "z"]⟩ =
      .error (.refused .nameTooLong "/w/z") := by
    have hnul : holdsNul ⟨.root, ["w", "z"]⟩ = false := by decide
    have hstart : (linkHost target).start ⟨.root, ["w", "z"]⟩ = [] := rfl
    rw [Host.locate, hnul, if_neg Bool.false_ne_true, hstart, locate_link hpart hlong, htext]
  have hlink : (linkHost target).isManifestFile ⟨.root, ["w", "z"]⟩ =
      .error (.refused .nameTooLong "/w/z") := by
    rw [Host.isManifestFile, Host.isFile, Host.test, Host.entry?, hlocate]
    rfl
  have hchildren : ["a.lpk", "z"].map linkRoot.child = [linkFile, ⟨.root, ["w", "z"]⟩] := by cbv
  have hlisting : listing (linkHost target) linkRoot =
      .error (.refused .nameTooLong "/w/z") := by
    simp [listing, manifestsIn, childrenWhere, childNames_link, hchildren, select,
      isManifestFile_beside, hlink, bind, Except.bind]
  have hignored : isIgnored [] linkRoot = false := by cbv
  simp [Visit.all, Visit.below, hignored, hlisting]

end Long

/-- A name of so many letters. -/
def nameOfLength (n : Nat) : String := String.ofList (List.replicate n 'n')

theorem utf8ByteSize_nameOfLength (n : Nat) : (nameOfLength n).utf8ByteSize = n := by
  rw [nameOfLength, String.utf8ByteSize_ofList]
  induction n with
  | zero => rfl
  | succ n ih =>
    rw [List.replicate_succ, String.utf8Len_cons, ih]
    rfl

theorem isPart_nameOfLength {n : Nat} (hn : maxNameBytes < n) : Path.IsPart (nameOfLength n) := by
  have hne (other : String) (hother : other.utf8ByteSize ≤ maxNameBytes) :
      nameOfLength n ≠ other := by
    rintro rfl
    rw [utf8ByteSize_nameOfLength] at hother
    exact hother.not_gt hn
  refine ⟨?_, fun hslash => ?_⟩
  · simp [Path.isPlainPart, hne "" (by decide), hne "." (by decide)]
  · rw [nameOfLength, String.toList_ofList] at hslash
    exact absurd (List.eq_of_mem_replicate hslash) (by decide)

/-- A name of one byte more than a file may have. -/
def longName : String := nameOfLength (maxNameBytes + 1)

theorem isPart_longName : Path.IsPart longName := isPart_nameOfLength (Nat.lt_succ_self _)

theorem size_longName : maxNameBytes < longName.utf8ByteSize := by
  rw [longName, utf8ByteSize_nameOfLength]
  exact Nat.lt_succ_self _

/-- A directory lies in another, is no link and is not left out, whether or not it can be listed. -/
def Inside (h : Host) (extra : List String) (directory child : Path) : Prop :=
  HasChild h directory child ∧ h.isRealDirectory child = .ok true ∧ isIgnored extra child = false

/-- No walk comes to the manifest beside a link that is refused, although it can be reached and read
and all walks end well. -/
theorem walks_miss_unlisted :
    let h := linkHost longName
    let source := linkSource longName
    isIgnored [] linkRoot = false ∧
      (∃ found v, outcome (resolveBelow h source [] linkRoot) {} = (.ok found, v)) ∧
      (∃ found v, outcome (repairBelow h source [] linkRoot) {} = (.ok found, v)) ∧
      (∃ v, outcome (publishBelow h source [] linkRoot) {} = (.ok (), v)) ∧
      ∃ packages v, outcome (packagesBelow h source [] linkRoot) {} = (.ok packages, v) ∧
        ¬ ∀ d m key, Relation.ReflTransGen (Inside h []) linkRoot d → HasChild h d m →
          h.isManifestFile m = .ok true → source.accepted? m = some key →
          key ∈ packages.map (·.manifest) := by
  intro h source
  have hvisits := visits_link isPart_longName size_longName
  have hignored : isIgnored [] linkRoot = false := by cbv
  refine ⟨hignored, ?_, ?_, ?_, ?_⟩
  · rw [resolveBelow, hvisits]
    exact ⟨_, _, rfl⟩
  · rw [repairBelow, hvisits]
    exact ⟨_, _, rfl⟩
  · obtain ⟨v, hvisit⟩ : ∃ v, outcome (publishVisit h source
        ⟨linkRoot, .error (.refused .nameTooLong "/w/z")⟩) {} = (.ok (), v) := by
      simp only [publishVisit, h, (canonical_beside longName).1]
      exact ⟨_, rfl⟩
    rw [publishBelow, hvisits]
    exact ⟨v, outcome_bind_ok _ hvisit⟩
  · rw [packagesBelow, hvisits]
    refine ⟨[], _, rfl, fun hall => ?_⟩
    have hchild : HasChild h linkRoot linkFile :=
      ⟨_, childNames_link longName, "a.lpk", List.mem_cons_self, by cbv⟩
    have haccepted : source.accepted? linkFile = some "/w/a.lpk" := by
      have hcanonical : source.canonical linkFile.toString = .ok "/w/a.lpk" :=
        (canonical_beside longName).2
      rw [ManifestSource.accepted?, hcanonical]
      rfl
    have hmem := hall linkRoot linkFile _ .refl hchild (isManifestFile_beside longName) haccepted
    exact List.not_mem_nil hmem

end Workspace

end PascalWorkspace
