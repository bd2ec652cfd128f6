import PascalWorkspace.CommandLine.Run
import PascalWorkspace.Proofs.Session.Accepted
import PascalWorkspace.Proofs.Uri.FileUri

/-! Requests on a machine without manifests and configuration files. Whatever a client sends, it is
served or rejected, or one of a few errors comes up that are not turned into a rejection. -/
namespace PascalWorkspace

open Operation FileTree

/-- A machine has no manifest on it and no configuration file. -/
structure Host.Bare (h : Host) : Prop where
  manifests : ∀ p, h.isManifestFile p ≠ .ok true
  settings : ∀ root, h.isFile (WorkspaceSettings.fileIn root) ≠ .ok true
  environment : ∀ directory : Path,
    ∀ file ∈ [IdeConfiguration.optionsFile, IdeConfiguration.definesFile],
      h.isFile (directory.child file) ≠ .ok true

namespace Host

variable {h : Host} {root : Path}

/-- A machine without any file is bare. -/
theorem bare_of_no_file
    (hfiles : ∀ loc entry, h.tree.entryAt loc = some entry → entry.isFile = false) : h.Bare := by
  have hnone (p : Path) : h.isFile p ≠ .ok true := by
    intro hp
    obtain ⟨loc, -, hfile⟩ := exists_locate_of_test hp
    cases hentry : h.tree.entryAt loc with
    | none => simp [hentry] at hfile
    | some entry =>
      rw [hentry, Option.getD_some, hfiles loc entry hentry] at hfile
      cases hfile
  refine ⟨fun p hp => ?_, fun root => hnone _, fun directory file _ => hnone _⟩
  obtain ⟨file, hfile, hreturn⟩ := bind_eq_ok_iff.1 hp
  obtain ⟨rfl, -⟩ : file = true ∧ isManifest p = true := by simpa using Except.ok.inj hreturn
  exact hnone p hfile

/-- No walk finds a manifest on a bare machine. -/
theorem Bare.listed_eq_nil (hbare : h.Bare) (ht : h.tree.WellFormed) {ignored : List String}
    {visit : Visit} (hvisit : visit ∈ Visit.all h ignored root) : visit.listed = [] := by
  refine List.eq_nil_iff_forall_not_mem.2 fun m hm => ?_
  obtain ⟨_, -, -, _, -, -, hfile⟩ :=
    (Visit.tour_all ht ignored root).mem_iff.1 (List.mem_flatMap.2 ⟨visit, hvisit, hm⟩)
  exact hbare.manifests m hfile

end Host

namespace Handshake

variable {surroundings : Surroundings} {members : Json.Members} {root : Path}
  {failure : Failure} {s : Session}

/-- What a request ends with on a bare machine if it is neither served nor rejected. -/
inductive Escapes (surroundings : Surroundings) (members : Json.Members) :
    Failure → Prop where
  /-- The host in the URI has brackets that are out of place. -/
  | malformed {uri : Text.Wide} (huri : Json.Value.member members "rootUri" = .text uri)
      (he : Uri.toPath uri = .error .malformed) : Escapes surroundings members .malformedUri
  /-- The URI holds half of a surrogate pair for which the name of a file has no byte. -/
  | unencodable {uri : Text.Wide} {half : Text.CodePoint} {e : PathError}
      (huri : Json.Value.member members "rootUri" = .text uri) (hhalf : half ∈ uri.points)
      (hbyte : half.isEncodable = false) (he : Uri.toPath uri = .error (.unusable e)) :
      Escapes surroundings members (.badPath e)
  /-- The URI stands for a name that no file can have. -/
  | nul {uri : Text.Wide} {path : Path} (huri : Json.Value.member members "rootUri" = .text uri)
      (hpath : Uri.toPath uri = .ok path) (hnul : Host.holdsNul path = true) :
      Escapes surroundings members (.badPath .holdsNul)
  /-- The path of the configuration file of the workspace or a name on the way to it is too long. -/
  | long {root : Path} (hroot : Names surroundings.host members root)
      (hlong : Host.maxPathBytes ≤ (WorkspaceSettings.fileIn root).toString.utf8ByteSize ∨
        surroundings.host.locate (WorkspaceSettings.fileIn root) =
          .error (.refused .nameTooLong (WorkspaceSettings.fileIn root).toString)) :
      Escapes surroundings members
        (.badPath (.refused .nameTooLong (WorkspaceSettings.fileIn root).toString))
  /-- A directory on the way to the configuration file of the workspace must not be searched. -/
  | denied {root : Path} (hroot : Names surroundings.host members root)
      (he : surroundings.host.locate (WorkspaceSettings.fileIn root) =
        .error (.refused .denied (WorkspaceSettings.fileIn root).toString)) :
      Escapes surroundings members
        (.badPath (.refused .denied (WorkspaceSettings.fileIn root).toString))
  /-- The usual places have no home directory to begin at. -/
  | homeless (hgiven : surroundings.ideDirectories = none)
      (he : surroundings.host.home = .error .homeUnknown) :
      Escapes surroundings members (.badPath .homeUnknown)
  /-- A directory to search has a name that no file can have. -/
  | searched {root directory : Path} {file : String} (hroot : Names surroundings.host members root)
      (hsearched : Searched surroundings root (.ok directory))
      (hfile : file ∈ [IdeConfiguration.optionsFile, IdeConfiguration.definesFile])
      (hnul : Host.holdsNul (directory.child file) = true) :
      Escapes surroundings members (.badPath .holdsNul)
  /-- The root has been resolved once, and leads back to itself when it is resolved again. -/
  | loop {root : Path} {place : String} (hroot : Names surroundings.host members root)
      (he : surroundings.host.canonical root.toString = .error (.linkLoop place)) :
      Escapes surroundings members (.badPath (.linkLoop place))

/-- How a request ends that is not served: it is rejected, or an error escapes. -/
def Ends (surroundings : Surroundings) (members : Json.Members)
    (failure : Failure) : Prop :=
  (∃ fault, failure = .request fault) ∨ Escapes surroundings members failure

/-- A URI that is none at all is not rejected, nor is one with a name that no file can have. -/
theorem rootPath_eq_error {value : Json.Value} (he : rootPath value = .error failure) :
    (∃ fault, failure = .request fault) ∨ ∃ uri, value = .text uri ∧
      (Uri.toPath uri = .error .malformed ∧ failure = .malformedUri ∨
        ∃ e, Uri.toPath uri = .error (.unusable e) ∧ failure = .badPath e) := by
  cases value with
  | text uri =>
    rw [rootPath] at he
    split at he
    · exact .inl ⟨_, (Except.error.inj he).symm⟩
    · cases hpath : Uri.toPath uri with
      | ok found =>
        rw [hpath] at he
        cases he
      | error e =>
        rw [hpath] at he
        obtain rfl := Except.error.inj he
        cases e with
        | malformed => exact .inr ⟨uri, rfl, .inl ⟨hpath, rfl⟩⟩
        | unusable e => exact .inr ⟨uri, rfl, .inr ⟨e, hpath, rfl⟩⟩
        | _ => exact .inl ⟨_, rfl⟩
  | _ => exact .inl ⟨_, (Except.error.inj he).symm⟩

theorem failsAs_locateRoot :
    FailsAs (Ends surroundings members) (locateRoot surroundings.host members) := by
  unfold locateRoot
  split
  · next failure he =>
    refine triple_throw ?_
    obtain hrequest | ⟨uri, huri, ⟨hpath, rfl⟩ | ⟨e, hpath, rfl⟩⟩ := rootPath_eq_error he
    · exact .inl hrequest
    · exact .inr (.malformed huri hpath)
    · obtain ⟨half, hhalf, hbyte⟩ := Uri.exists_half_of_unusable hpath
      exact .inr (.unencodable huri hhalf hbyte hpath)
  · next path hok =>
    obtain ⟨uri, huri, hpath⟩ := rootPath_eq_ok hok
    obtain ⟨habsolute, hback⟩ := Uri.ofString_of_toPath hpath
    split
    · next e he =>
      refine triple_throw ?_
      rw [← hback] at habsolute
      obtain ⟨rfl, hnul⟩ | ⟨place, rfl⟩ := Host.canonical_eq_error habsolute he
      · exact .inr (.nul huri hpath (hback ▸ hnul))
      · exact .inl ⟨_, rfl⟩
    · exact failsAs_pure _

theorem failsAs_accept :
    FailsAs (Ends surroundings members) (accept surroundings.host members) := by
  have hoptions : FailsAs (Ends surroundings members) (acceptOptions members) := by
    refine triple_get_bind fun s _ => ?_
    split
    · exact triple_throw (.inl ⟨_, rfl⟩)
    · exact failsAs_modify _
  exact triple_bind hoptions fun _ => failsAs_locateRoot

section Bare

variable (hbare : surroundings.host.Bare) (hroot : Names surroundings.host members root)
include hbare

theorem settings_of_bare {settings : WorkspaceSettings}
    (hsettings : ∀ u,
      (outcome (WorkspaceSettings.load surroundings.host root) u).1 = .ok settings) :
    settings = {} := by
  have hload := hsettings {}
  unfold WorkspaceSettings.load at hload
  cases hfile : surroundings.host.isFileAt (WorkspaceSettings.fileIn root) with
  | error e => simp [hfile, outcome_bind] at hload
  | ok yes =>
    cases yes with
    | true => exact absurd (Host.isFile_of_isFileAt hfile) (hbare.settings root)
    | false => simpa [hfile, outcome_bind] using hload.symm

include hroot

/-- Of what breaks a request down there is on a bare machine what has nothing to do with files. -/
theorem escapes_of_breakdown (hh : surroundings.host.Regular)
    (hbreakdown : Breakdown surroundings root failure) : Escapes surroundings members failure := by
  cases hbreakdown with
  | unasked he =>
    obtain ⟨rfl, hlong⟩ | ⟨rfl, hlocate⟩ := Host.locate_of_isFileAt_eq_error he
    · exact .long hroot hlong
    · exact .denied hroot hlocate
  | broken hbytes => exact absurd (Host.isFile_of_readFile hbytes) (hbare.settings root)
  | unexpanded hsettings hset =>
    rw [settings_of_bare hbare hsettings] at hset
    cases hset
  | homeless hgiven he =>
    obtain rfl | ⟨-, hnul⟩ := Host.expandHome_eq_error he
    · exact .homeless hgiven he
    · exact absurd hnul (by decide)
  | unnamed hsearched =>
    obtain ⟨settings, candidates, hsettings, hforce, hmem⟩ := hsearched
    obtain rfl := settings_of_bare hbare hsettings
    exact absurd hmem (hforce.error_not_mem rfl)
  | nul hsearched hfile hnul => exact .searched hroot hsearched hfile hnul
  | encoding hsearched hfile hbytes =>
    exact absurd (Host.isFile_of_readFile hbytes) (hbare.environment _ _ hfile)
  | unresolvable he =>
    obtain ⟨huri, hpath, htext⟩ := hroot
    obtain ⟨q, hspelled, rfl⟩ := Host.exists_spelled_of_canonical hh htext
    rw [hspelled.ofString_toString] at he
    have habsolute : (Path.ofString q.toString).isAbsolute = true := by
      rw [hspelled.ofString_toString]
      simpa [Path.isAbsolute] using hspelled.absolute
    obtain ⟨-, hnul⟩ | ⟨place, rfl⟩ := Host.canonical_eq_error habsolute he
    · rw [hspelled.ofString_toString, Host.holdsNul_of_spelled hspelled] at hnul
      cases hnul
    · exact .loop (.resolved huri hpath htext) (by rwa [hspelled.ofString_toString])

end Bare

/-- A request on a bare machine is served or rejected, whatever it holds, unless one of the errors
comes up that escape. -/
theorem served_or_rejected (hh : surroundings.host.Regular)
    (ht : surroundings.host.tree.WellFormed) (hbare : surroundings.host.Bare)
    (params : Json.Value) (s : Session) :
    let result := (outcome (serve surroundings params) s).1
    result = .ok capabilities ∨
      (∃ fault, result = .error (.request fault) ∧ CommandLine.rejection fault = .object
        [("error", .object [("code", .integer (-32602)), ("message", .text fault.message)])]) ∨
      ∃ members failure, params = .object members ∧ result = .error failure ∧
        Escapes surroundings members failure := by
  intro result
  cases params with
  | object members =>
    have hserve : Triple (Ends surroundings members) (fun _ => True)
        (serve surroundings (.object members)) fun result _ => result = capabilities := by
      rw [serve_eq_serveAccepted]
      refine triple_bind (failsAs_accept.with_result fun _ _ _ hrun => names_of_accept hrun)
        fun root => triple_of_fact fun hroot s _ => ?_
      obtain ⟨huri, hpath, htext⟩ := hroot
      have haccepted := triple_serveAccepted hh ht htext fun _ _ hvisit =>
        hbare.listed_eq_nil ht hvisit
      obtain hok | ⟨failure, t, hrun, hbreakdown⟩ := haccepted s trivial
      · exact .inl hok
      · exact .inr ⟨failure, t, hrun, .inr
          (escapes_of_breakdown hbare (.resolved huri hpath htext) hh hbreakdown)⟩
    obtain ⟨_, t, hrun, rfl⟩ | ⟨failure, t, hrun, ⟨fault, rfl⟩ | hescapes⟩ := hserve s trivial
    · exact .inl (congrArg Prod.fst hrun)
    · exact .inr (.inl ⟨fault, congrArg Prod.fst hrun, rfl⟩)
    · exact .inr (.inr ⟨members, failure, rfl, congrArg Prod.fst hrun, hescapes⟩)
  | _ => exact .inr (.inl ⟨.paramsNotObject, rfl, rfl⟩)

def clearSurroundings : Surroundings :=
  { deskSurroundings [] with host := clearHost, source := .ofHost clearHost }

theorem bare_clear : clearHost.Bare := by
  refine Host.bare_of_no_file fun loc entry hentry => ?_
  by_cases hroot : loc = []
  · subst hroot
    obtain rfl := Option.some.inj hentry
    rfl
  · have hmem := mem_entries hroot hentry
    obtain ⟨-, rfl⟩ | ⟨-, rfl⟩ : loc = ["w"] ∧ entry = .directory ∨
        loc = ["c"] ∧ entry = .directory := by simpa [clearHost] using hmem
    · rfl
    · rfl

theorem member_desk {uri : Text.Wide}
    (huri : Json.Value.member deskMembers "rootUri" = .text uri) : uri = "file:///w" :=
  (Json.Value.text.inj huri).symm

theorem eq_of_names_clear {root : Path} (hroot : Names clearHost deskMembers root) :
    root = deskRoot := by
  obtain ⟨huri, hpath, htext⟩ := hroot
  rw [member_desk huri, toPath_desk] at hpath
  obtain rfl := Except.ok.inj hpath
  rw [canonical_clear] at htext
  obtain rfl := Except.ok.inj htext
  exact ofString_desk

theorem locate_clear_settings : clearHost.locate (WorkspaceSettings.fileIn deskRoot) =
    .error (.refused .notFound (WorkspaceSettings.fileIn deskRoot).toString) :=
  locate_settings_of_missing rfl rfl

theorem not_escapes_clear (failure : Failure) :
    ¬ Escapes clearSurroundings deskMembers failure := by
  intro hescapes
  cases hescapes with
  | malformed huri he =>
    rw [member_desk huri, toPath_desk] at he
    cases he
  | nul huri hpath hnul =>
    rw [member_desk huri, toPath_desk] at hpath
    obtain rfl := Except.ok.inj hpath
    exact absurd hnul (by decide)
  | unencodable huri _ _ he =>
    rw [member_desk huri, toPath_desk] at he
    cases he
  | long hroot hlong =>
    obtain rfl := eq_of_names_clear hroot
    obtain hlong | he := hlong
    · exact absurd hlong (by decide)
    · cases (PathError.refused.inj (Except.error.inj (locate_clear_settings.symm.trans he))).1
  | denied hroot he =>
    obtain rfl := eq_of_names_clear hroot
    cases (PathError.refused.inj (Except.error.inj (locate_clear_settings.symm.trans he))).1
  | homeless hgiven => cases hgiven
  | @searched _ directory file _ hsearched hfile hnul =>
    obtain ⟨_, _, -, hforce, hmem⟩ := hsearched
    rw [hforce.eq_of_given rfl] at hmem
    obtain rfl := Except.ok.inj (List.mem_singleton.1 hmem)
    have hplain : ∀ file ∈ [IdeConfiguration.optionsFile, IdeConfiguration.definesFile],
        Host.holdsNul (Path.child ⟨.root, ["c"]⟩ file) = false := by decide
    rw [hplain file hfile] at hnul
    cases hnul
  | loop hroot he =>
    obtain rfl := eq_of_names_clear hroot
    rw [show clearSurroundings.host = clearHost from rfl, canonical_clear] at he
    cases he

/-- The workspace is empty and there is nothing to be read, and so the request is served. -/
theorem served_or_rejected_clear : clearHost.Regular ∧ clearHost.tree.WellFormed ∧
    clearHost.Bare ∧
    (outcome (serve clearSurroundings (.object deskMembers)) {}).1 = .ok capabilities := by
  refine ⟨regular_clear, wellFormed_clear, bare_clear, ?_⟩
  have hends := @served_or_rejected clearSurroundings regular_clear wellFormed_clear bare_clear
    (.object deskMembers) {}
  obtain hok | ⟨fault, hfault, -⟩ | ⟨_, failure, heq, -, hescapes⟩ := hends
  · exact hok
  · have hsource : clearSurroundings.source.Passes := ManifestSource.passes_ofHost clearHost
    have hrejected := rejected_of_serve hsource (Prod.ext hfault rfl)
    have haccept : outcome (accept clearSurroundings.host deskMembers) {} = _ :=
      accept_of_canonical canonical_clear
    rw [haccept] at hrejected
    cases hrejected
  · obtain rfl := Json.Value.object.inj heq
    exact absurd hescapes (not_escapes_clear failure)

/-- A NUL character that is encoded in the URI ends the request with an error that is no rejection.
-/
theorem escapes_clear : clearHost.Bare ∧
    (outcome (serve clearSurroundings (.object [("rootUri", .text "file:///a%00b")])) {}).1 =
      .error (.badPath .holdsNul) := by
  have hpath : rootPath (.text "file:///a%00b") = .ok ⟨.root, ["a\x00b"]⟩ := by decide +kernel
  have hcanonical : clearHost.canonical (Path.mk .root ["a\x00b"]).toString =
      .error .holdsNul := by decide +kernel
  have haccept : outcome (accept clearHost [("rootUri", .text "file:///a%00b")]) {} =
      (.error (.badPath .holdsNul), {}) := by
    have hoptions : outcome (acceptOptions [("rootUri", .text "file:///a%00b")]) {} =
        (.ok (), {}) := rfl
    have hmember : Json.Value.member [("rootUri", .text "file:///a%00b")] "rootUri" =
        .text "file:///a%00b" := rfl
    rw [accept, outcome_bind_ok _ hoptions, locateRoot, hmember, hpath]
    simp only [hcanonical]
    rfl
  refine ⟨bare_clear, ?_⟩
  rw [serve_eq_serveAccepted, outcome_bind, show clearSurroundings.host = clearHost from rfl,
    haccept]

end Handshake

end PascalWorkspace
