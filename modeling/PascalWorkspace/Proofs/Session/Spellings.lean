import PascalWorkspace.Proofs.FileTree.Cycle
import PascalWorkspace.Proofs.Host.Keys
import PascalWorkspace.Proofs.Session.Integrity
import PascalWorkspace.Proofs.Session.Names

/-! The canonical spelling of a path is a normal form: one spelling for each place, which is its own
canonical spelling. Hence a manifest that the index of names hands out is found again as the package
that was registered. -/
namespace PascalWorkspace

/-- Only a text that begins with a tilde, or with a dot and a slash, is expanded to a home directory.
-/
theorem Path.BeginsWithTilde.text {text : String} (h : (Path.ofString text).BeginsWithTilde) :
    text.toList.head? = some '~' ∨ ∃ rest, text.toList = '.' :: '/' :: rest := by
  obtain ⟨hanchor, first, hfirst, htilde⟩ := h
  have hparts : (Path.ofString text).parts =
      ((Path.splitChars '/' text.toList).map String.ofList).filter Path.isPlainPart := rfl
  have hslash : text.toList.head? ≠ some '/' := fun hslash =>
    Path.anchorOfChars_ne_relative hslash hanchor
  rw [hparts] at hfirst
  generalize text.toList = cs at hfirst hslash ⊢
  cases cs with
  | nil => cases hfirst
  | cons c cs =>
    have hc : c ≠ '/' := fun heq => hslash (by rw [heq, List.head?_cons])
    obtain ⟨piece, pieces, hpieces⟩ : ∃ piece pieces, Path.splitChars '/' cs = piece :: pieces :=
      List.exists_cons_of_ne_nil (by
        rw [Path.splitChars_eq_splitOn]
        exact List.splitOn_ne_nil _ _)
    have hsplit : Path.splitChars '/' (c :: cs) = (c :: piece) :: pieces := by
      rw [Path.splitChars, if_neg hc, hpieces]
    rw [hsplit, List.map_cons] at hfirst
    by_cases hplain : Path.isPlainPart (String.ofList (c :: piece)) = true
    · rw [List.filter_cons_of_pos hplain, List.head?_cons] at hfirst
      obtain rfl := Option.some.inj hfirst
      rw [String.toList_ofList, List.head?_cons] at htilde
      exact .inl htilde
    · -- The first component is a dot, so there is a second one.
      have hdot : String.ofList (c :: piece) = "." := by
        simpa [Path.isPlainPart, ← String.toList_inj] using hplain
      rw [← String.toList_inj, String.toList_ofList] at hdot
      obtain ⟨rfl, rfl⟩ := List.cons.inj (show c :: piece = ['.'] from hdot)
      rw [List.filter_cons_of_neg hplain] at hfirst
      cases cs with
      | nil =>
        obtain ⟨-, rfl⟩ := List.cons.inj (show [[]] = [] :: pieces from hpieces)
        cases hfirst
      | cons d cs =>
        by_cases hd : d = '/'
        · exact .inr ⟨cs, by rw [hd]⟩
        · rw [Path.splitChars, if_neg hd] at hpieces
          split at hpieces <;> cases hpieces

namespace FileTree

variable {t : FileTree} {n links : Nat} {loc out : Location} {text : String} {steps : List String}

/-- Names that stay where they are do not matter. -/
theorem Leads.filter_isPlainPart (h : Leads t n loc steps out) :
    Leads t n loc (steps.filter Path.isPlainPart) out := by
  induction h with
  | done => exact .done
  | stay hname _ ih =>
    rw [List.filter_cons_of_neg (by simpa [Path.isPlainPart, or_iff_not_imp_left] using hname)]
    exact ih
  | up _ ih =>
    rw [List.filter_cons_of_pos (by decide)]
    exact .up ih
  | down hname hentry _ ih =>
    rw [List.filter_cons_of_pos (by simp [Path.isPlainPart, hname.nonempty, hname.notDot])]
    exact .down hname hentry ih
  | follow hname hentry hlink _ _ ih =>
    rw [List.filter_cons_of_pos (by simp [Path.isPlainPart, hname.nonempty, hname.notDot])]
    exact .follow hname hentry hlink ih

theorem Clean.not_link (h : Clean t loc) (target : String) :
    t.entryAt loc ≠ some (.link target) := by
  cases h with
  | root => nofun
  | child _ _ hentry => exact hentry target

/-- Where the operating system comes to by the text of a path, its components lead. -/
theorem Follows.leads_ofString (h : Follows t links loc (targetSteps text) out) :
    ∃ n, Leads t n loc (Path.ofString text).parts out := by
  have hempty : "" ∉ targetSteps text := by
    unfold targetSteps
    split <;> simp
  obtain ⟨n, hleads⟩ := h.leads hempty
  obtain ⟨m, hpieces⟩ := hleads.of_targetSteps
  exact ⟨m, hpieces.filter_isPlainPart⟩

end FileTree

namespace Host

open FileTree

variable {h : Host} {text key : String} {links : Nat} {place : Location}

/-- The operating system comes to a place by the text of a path, and follows so many links. -/
def Names (h : Host) (links : Nat) (text : String) (place : Location) : Prop :=
  Follows h.tree links (origin h.cwd text) (targetSteps text) place

theorem noNul_ofString (hnul : '\x00' ∉ text.toList) : holdsNul (Path.ofString text) = false :=
  holdsNul_eq_false.2 fun _ hpart hmem =>
    hnul ((Path.mem_pieces (List.mem_of_mem_filter hpart)).2 hmem)

/-- A path that names something has the path of its place as its canonical spelling. -/
theorem Names.canonical (hnames : h.Names links text place) (hh : h.Regular)
    (hnul : '\x00' ∉ text.toList) (htilde : ¬ (Path.ofString text).BeginsWithTilde) :
    Clean h.tree place ∧ h.canonical text = .ok (pathOf place).toString := by
  obtain ⟨n, hleads⟩ := Follows.leads_ofString hnames
  have hsteps : ∀ part ∈ (Path.ofString text).parts, IsStepName part := fun part hpart =>
    ⟨(Path.isPart_of_mem_ofString hpart).noSlash,
      holdsNul_eq_false.1 (noNul_ofString hnul) part hpart⟩
  have hclean := hleads.clean hh.targets (hh.clean_start _) hsteps
  exact ⟨hclean, canonical_of_resolve htilde
    (resolve_of_leads (noNul_ofString hnul) hclean hleads)⟩

/-- Clean places with one path are one place. -/
theorem pathOf_injective {other : Location} (hplace : Clean h.tree place)
    (hother : Clean h.tree other) (heq : (pathOf place).toString = (pathOf other).toString) :
    place = other := by
  have hpath := congrArg Path.ofString heq
  rw [ofString_pathOf hplace, ofString_pathOf hother] at hpath
  exact congrArg Path.parts hpath

end Host

namespace Registry

variable {canonical : String → Except PathError String} {r s : Registry}

/-- Every package is registered under a spelling that is its own canonical spelling. -/
def WellSpelled (canonical : String → Except PathError String) (r : Registry) : Prop :=
  ∀ p ∈ r.packages, canonical p.manifest = .ok p.manifest

/-- What is well spelled stays so. -/
def StaysSpelled (canonical : String → Except PathError String) (r s : Registry) : Prop :=
  r.WellSpelled canonical → s.WellSpelled canonical

instance : IsPreorder Registry (StaysSpelled canonical) where
  refl _ := id
  trans _ _ _ hrs hst := hst ∘ hrs

theorem wellSpelled_empty : WellSpelled canonical {} := fun _ hp => nomatch hp

theorem wellSpelled_iff : r.WellSpelled canonical ↔
    ∀ key ∈ r.packages.map (·.manifest), canonical key = .ok key := by
  rw [WellSpelled, List.forall_mem_map]

theorem Develops.staysSpelled (h : Develops r s) : StaysSpelled canonical r s := by
  intro hr
  rw [wellSpelled_iff, map_manifest_of_forall₂_grows h.packages]
  exact wellSpelled_iff.1 hr

end Registry

namespace Workspace

open Registry

variable {source : ManifestSource} {path : String} {result : Except Failure Package}
  {r s : Registry}

theorem Asked.staysSpelled
    (hsource : ∀ path key, source.canonical path = .ok key → source.canonical key = .ok key)
    (h : Asked source path r result s) : StaysSpelled source.canonical r s := by
  cases h with
  | badPath | refused | known => exact id
  | registered hkey =>
    intro hr p hp
    obtain hp | hp := List.mem_append.1 hp
    · exact hr p hp
    · obtain rfl := List.mem_singleton.1 hp
      exact hsource _ _ hkey

end Workspace

namespace Session

open Operation Registry FileTree

variable {s : Session} {calls : List Call} {canonical : String → Except PathError String}

/-- All manifests that a call reads have one kind of canonical spelling. -/
def Call.Spells (canonical : String → Except PathError String) (c : Call) : Prop :=
  ∀ source ∈ c.source?, source.canonical = canonical

theorem wellSpelled_performAll
    (hidem : ∀ path key, canonical path = .ok key → canonical key = .ok key)
    (hcalls : ∀ c ∈ calls, c.Spells canonical) (hs : s.workspace.registry.WellSpelled canonical) :
    (s.performAll calls).workspace.registry.WellSpelled canonical := by
  induction calls generalizing s with
  | nil => exact hs
  | cons c calls ih =>
    obtain ⟨hc, hrest⟩ := List.forall_mem_cons.1 hcalls
    have habsorbs : Workspace.Absorbs c.source? (StaysSpelled canonical) := by
      refine ⟨fun source hsource path r result s hasked => ?_, fun r s h => h.staysSpelled⟩
      obtain rfl := hc source hsource
      exact hasked.staysSpelled hidem
    exact ih hrest (absorbed_perform habsorbs s hs)

/-- Without loops of links every path that begins with no tilde has an absolute canonical spelling
without dots and links, which is its own canonical spelling. Two paths that name something have the
same one exactly if they name the same. So a manifest that is found by name can be asked for by what
was found: the package returned is the first of that name, and nothing changes. -/
theorem canonical_normal_form (h : Host) (hh : h.Regular) (hloop : h.tree.Acyclic) :
    (∀ text, '\x00' ∉ text.toList → ¬ (Path.ofString text).BeginsWithTilde →
      ∃ p : Path, h.canonical text = .ok p.toString ∧ h.canonical p.toString = .ok p.toString ∧
        Path.ofString p.toString = p ∧ p.anchor = .root ∧
        (∀ part ∈ p.parts, part ≠ "" ∧ part ≠ "." ∧ part ≠ ".." ∧ '/' ∉ part.toList) ∧
        ∀ place, place <+: p.parts → ∀ target, h.tree.entryAt place ≠ some (.link target)) ∧
    (∀ a b links links' place place', '\x00' ∉ a.toList → '\x00' ∉ b.toList →
      ¬ (Path.ofString a).BeginsWithTilde → ¬ (Path.ofString b).BeginsWithTilde →
      h.Names links a place → h.Names links' b place' →
      (h.canonical a = h.canonical b ↔ place = place')) ∧
    ∀ (s : Session) (calls : List Call), s.workspace.registry = {} →
      (∀ c ∈ calls, c.Spells h.canonical) →
      ∀ name key, (s.performAll calls).workspace.registry.lookup? name = some key →
        h.canonical key = .ok key ∧ ∃ early p late,
          (s.performAll calls).workspace.registry.packages = early ++ p :: late ∧
          p.manifest = key ∧ sameName p.name name = true ∧
          (∀ q ∈ early, sameName q.name name = false) ∧
          (s.performAll calls).workspace.registry.find? key = some p ∧
          ∀ source : ManifestSource, source.canonical = h.canonical →
            outcome (onWorkspace (Workspace.register source key)) (s.performAll calls) =
              (.ok p, s.performAll calls) := by
  have hfree : h.tree.LoopFree := loopFree_iff_acyclic.2 hloop
  refine ⟨fun text hnul htilde => ?_, fun a b links links' place place' hnul hnul' htilde htilde'
    hplace hplace' => ?_, fun s calls hs hcalls name key hlookup => ?_⟩
  · obtain ⟨place, hplace, hresolve⟩ := Host.exists_resolve hh hfree
      (fun _ hpart => (Path.isPart_of_mem_ofString hpart).noSlash) (Host.noNul_ofString hnul)
    refine ⟨_, Host.canonical_of_resolve htilde hresolve, Host.canonical_pathOf hplace,
      Host.ofString_pathOf hplace, rfl, fun part hpart => ?_, fun pre hpre target => ?_⟩
    · have hname := hplace.isFileName hpart
      exact ⟨hname.nonempty, hname.notDot, hname.notUp, hname.noSlash⟩
    · obtain ⟨rest, rfl⟩ := hpre
      exact hplace.of_append.not_link target
  · obtain ⟨hclean, hkey⟩ := hplace.canonical hh hnul htilde
    obtain ⟨hclean', hkey'⟩ := hplace'.canonical hh hnul' htilde'
    rw [hkey, hkey']
    refine ⟨fun heq => Host.pathOf_injective hclean hclean' (Except.ok.inj heq), ?_⟩
    rintro rfl
    rfl
  · have hspelled := wellSpelled_performAll (fun _ _ => Host.canonical_canonical hh hfree) hcalls
      (hs ▸ wellSpelled_empty)
    have hindexed := (catalogued_performAll hs calls).indexed (sound_performAll hs calls).distinct
    obtain ⟨early, p, late, hsplit, rfl, hname, hearly⟩ := hindexed.first name key hlookup
    have hp : p ∈ (s.performAll calls).workspace.registry.packages :=
      hsplit ▸ List.mem_append_right _ List.mem_cons_self
    have hkey := hspelled p hp
    have hfind := (hindexed.find?_iff _ _).2 ⟨hp, rfl⟩
    refine ⟨hkey, early, p, late, hsplit, rfl, sameName_iff.2 hname, fun q hq => ?_, hfind,
      fun source hsource => ?_⟩
    · exact Bool.eq_false_iff.2 fun hsame => hearly q hq (sameName_iff.1 hsame)
    · rw [outcome_onWorkspace, Workspace.outcome_register_known (hsource ▸ hkey) hfind]

/-- A machine on which a directory is named as a home directory is written. -/
def tildeHost : Host where
  tree := ⟨[(["home"], .directory), (["~"], .directory)]⟩
  cwd := []
  environment := [("HOME", "/home")]
  homes := []

theorem entryAt_tilde (link : Location) (target : String) :
    tildeHost.tree.entryAt link ≠ some (.link target) := by
  intro hlink
  simpa [tildeHost] using mem_entries (ne_root_of_link hlink) hlink

/-- A directory whose name is a tilde has two canonical spellings: a text that begins with a dot is
expanded all the same, and for some names there is none at all. -/
theorem canonical_of_dotted_tilde :
    tildeHost.Regular ∧ tildeHost.tree.Acyclic ∧
      tildeHost.Names maxLinks "./~" ["~"] ∧ tildeHost.Names maxLinks "/~" ["~"] ∧
      tildeHost.canonical "./~" = .ok "/home" ∧ tildeHost.canonical "/~" = .ok "/~" ∧
      tildeHost.canonical "./~nobody" = .error .homeUnknown := by
  have hfree : tildeHost.tree.LoopFree := fun link target hlink =>
    (entryAt_tilde link target hlink).elim
  have hnames (text : String)
      (hok : tildeHost.tree.follow maxLinks (origin tildeHost.cwd text) (targetSteps text) =
        .ok ["~"]) : tildeHost.Names maxLinks text ["~"] := follow_eq_ok_iff.1 hok
  have hhome : tildeHost.expandHome (Path.ofString "./~") = .ok (Path.ofString "/home") := by
    decide +kernel
  have hnobody : tildeHost.expandHome (Path.ofString "./~nobody") = .error .homeUnknown := by
    decide +kernel
  refine ⟨⟨.root, fun link target hlink => (entryAt_tilde link target hlink).elim⟩,
    loopFree_iff_acyclic.1 hfree, hnames _ ?_, hnames _ ?_, ?_, ?_, ?_⟩
  · cbv
  · cbv
  · rw [Host.canonical, hhome]
    cbv
  · cbv
  · rw [Host.canonical, hnobody]
    rfl

/-- A path through a link and one without name the same, and the package that a name leads to is
returned again. -/
theorem canonical_normal_form_linked :
    linkedHost.Regular ∧ linkedHost.tree.Acyclic ∧
      linkedHost.Names maxLinks "../v" ["w"] ∧ linkedHost.Names maxLinks "/w/" ["w"] ∧
      linkedHost.canonical "../v" = linkedHost.canonical "/w/" ∧
      (∃ p : Path, linkedHost.canonical "../v/new" = .ok p.toString) ∧
      ∃ p, outcome (onWorkspace (Workspace.register linkedSource "/w/b.lpk"))
        (({} : Session).performAll linkedCalls) = (.ok p, ({} : Session).performAll linkedCalls) := by
  have hacyclic := loopFree_iff_acyclic.1 loopFree_linked
  obtain ⟨hspelling, hsame, hregistry⟩ := canonical_normal_form linkedHost regular_linked hacyclic
  have hlink : linkedHost.Names maxLinks "../v" ["w"] := follow_eq_ok_iff.1 (by cbv)
  have hplain : linkedHost.Names maxLinks "/w/" ["w"] := follow_eq_ok_iff.1 (by cbv)
  have htilde (text : String) (hhead : text.toList.head? ≠ some '~')
      (hdot : ∀ rest, text.toList ≠ '.' :: '/' :: rest) :
      ¬ (Path.ofString text).BeginsWithTilde := fun h =>
    h.text.elim hhead (not_exists.2 hdot)
  have hup := htilde "../v" (by decide) (by simp)
  have hroot := htilde "/w/" (by decide) (by simp)
  have hnew := htilde "../v/new" (by decide) (by simp)
  have hcalls : ∀ c ∈ linkedCalls, c.Spells linkedHost.canonical := by
    simp [linkedCalls, Call.Spells, Call.source?, linkedSource, ManifestSource.ofTable]
  have hlookup : (({} : Session).performAll linkedCalls).workspace.registry.lookup? "B" =
      some "/w/b.lpk" := by
    rw [(catalogued_performAll rfl linkedCalls).lookup?_eq, packages_linked]
    cbv
  obtain ⟨p, hp, -⟩ := hspelling "../v/new" (by decide) hnew
  obtain ⟨-, early, q, late, -, -, -, -, -, hregister⟩ :=
    hregistry {} linkedCalls rfl hcalls "B" "/w/b.lpk" hlookup
  exact ⟨regular_linked, hacyclic, hlink, hplain,
    (hsame _ _ _ _ _ _ (by decide) (by decide) hup hroot hlink hplain).2 rfl, ⟨p, hp⟩,
    q, hregister linkedSource rfl⟩

end Session

end PascalWorkspace
