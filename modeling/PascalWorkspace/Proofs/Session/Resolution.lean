import PascalWorkspace.Proofs.Package.Confined
import PascalWorkspace.Proofs.Session.Integrity
import PascalWorkspace.Proofs.Session.Success

/-! In a session over manifests that stay as they are, looking for the dependencies of a package
comes to an end. What the package needs is then known and begun, and the rest is as it was. -/
namespace PascalWorkspace

namespace ManifestSource

variable {h : Host} {source : ManifestSource}

/-- A source that does not change. Each path that may be asked for is that of a manifest that can be
read, or it is reported as one that cannot. -/
inductive Fixed (h : Host) : ManifestSource → Prop where
  /-- Manifests in memory, on any machine. -/
  | table (table : List (String × Manifest))
      (hpaths : ∀ entry ∈ table, ∃ key, h.canonical entry.1 = .ok key)
      (hhints : ∀ entry ∈ table, ∀ q ∈ entry.2.requirements, q.hint ≠ "" →
        ∃ key, h.canonical q.hint = .ok key) : Fixed h (.ofTable h table)
  /-- The files of a machine on which no link leads back to itself. -/
  | files (hh : h.Regular) (ht : h.tree.WellFormed) (hloop : h.tree.LoopFree)
      (hread : ReadsOrReports h) : Fixed h (.ofHost h)

theorem mem_of_offers_ofTable {table : List (String × Manifest)} {key : String} {m : Manifest}
    (hm : (ofTable h table).Offers key m) : (key, m) ∈ table := by
  have hread : (ofTable h table).read key = .ok m := hm.2
  cases hlookup : table.lookup key with
  | none => simp [ofTable, hlookup] at hread
  | some found =>
    obtain rfl : found = m := by simpa [ofTable, hlookup] using hread
    obtain ⟨before, behind, hsplit, -⟩ := List.lookup_eq_some_iff.1 hlookup
    rw [hsplit]
    exact List.mem_append_right _ List.mem_cons_self

theorem reliable_ofTable {table : List (String × Manifest)}
    (hpaths : ∀ entry ∈ table, ∃ key, h.canonical entry.1 = .ok key)
    (hhints : ∀ entry ∈ table, ∀ q ∈ entry.2.requirements, q.hint ≠ "" →
      ∃ key, h.canonical q.hint = .ok key) :
    (ofTable h table).Reliable Operation.Never := by
  constructor
  case reads =>
    intro text key _
    cases hlookup : table.lookup key with
    | none => exact .inr ⟨key, .unknownManifest, by simp [ofTable, hlookup]⟩
    | some m => exact .inl ⟨m, by simp [ofTable, hlookup]⟩
  case again => exact fun key m hm => hpaths (key, m) (mem_of_offers_ofTable hm)
  case hints =>
    intro key m hm q hq hne e he
    obtain ⟨found, hfound⟩ := hhints (key, m) (mem_of_offers_ofTable hm) q hq hne
    cases hfound.symm.trans he
  case bounded =>
    intro keys hnodup hkeys
    have hsub : keys ⊆ table.map (·.1) := by
      intro key hkey
      obtain ⟨m, hm⟩ := hkeys key hkey
      exact List.mem_map.2 ⟨(key, m), mem_of_offers_ofTable hm, rfl⟩
    have hle := (hnodup.subperm hsub).length_le
    rwa [List.length_map] at hle

theorem Fixed.reliable (hsource : Fixed h source) : source.Reliable Operation.Never := by
  cases hsource with
  | table table hpaths hhints => exact reliable_ofTable hpaths hhints
  | files hh ht hloop hread =>
    -- Without loops there is no obstacle to a hint, and no path is visited on the way.
    have hfiles : (ofHost h).Reliable (Obstructed h []) := reliable_ofHost hh ht hread
    refine hfiles.imp ?_
    rintro failure ⟨e, rfl, he⟩
    cases he with
    | hint _ _ he => exact Host.canonical_ne_linkLoop hh hloop he
    | tilde hvisit => cases hvisit

end ManifestSource

namespace Session

open Operation Registry

variable {source : ManifestSource} {s : Session} {calls : List Call}

/-- Calls that read one source only keep the registry stocked from it. -/
theorem stocked_performAll (hs : s.workspace.registry = {})
    (hcalls : ∀ c ∈ calls, ∀ other ∈ c.source?, other = source) :
    Stocked source source.capacity (s.performAll calls).workspace.registry := by
  have hstays : StaysStocked source source.capacity s.workspace.registry
      (s.performAll calls).workspace.registry := by
    clear hs
    induction calls generalizing s with
    | nil => exact id
    | cons c calls ih =>
      obtain ⟨hc, hrest⟩ := List.forall_mem_cons.1 hcalls
      have habsorbs := (Workspace.absorbs_staysStocked source source.capacity).of_source hc
      exact trans_of (StaysStocked source source.capacity) (absorbed_perform habsorbs s) (ih hrest)
  rw [hs] at hstays
  exact hstays (stocked_empty source)

/-- Whatever cycles there are among the packages, looking for what one of them needs comes to an
end. All that it then needs is registered and begun. Packages that had been begun before have at
most more dependents, and packages that it does not need are as they were. -/
theorem resolve_closes (h : Host) (source : ManifestSource) (hsource : source.Fixed h)
    (s : Session) (hs : s.workspace.registry = {}) (calls : List Call)
    (hcalls : ∀ c ∈ calls, ∀ other ∈ c.source?, other = source) :
    let before := (s.performAll calls).workspace
    ∀ p ∈ before.registry.packages, ∃ now,
      outcome (Workspace.resolve source p.manifest) before = (.ok (), now) ∧
      (∀ key, now.registry.Needed p.manifest key →
        ∃ q, now.registry.find? key = some q ∧ q.isResolved = true) ∧
      (∀ q ∈ before.registry.packages, q.isResolved = true →
        ∃ more, now.registry.find? q.manifest =
          some { q with requiredBy := q.requiredBy ++ more }) ∧
      ∀ key, ¬ now.registry.Needed p.manifest key →
        now.registry.find? key = before.registry.find? key := by
  intro before p hp
  have hsteps : Steps .unlimited {} before.registry := steps_performAll hs calls
  have hsound := sound_performAll hs calls
  have hfind := find?_of_mem hsound.distinct hp
  obtain ⟨_, now, hrun, -⟩ := (Workspace.triple_resolve hsource.reliable p.manifest).exists_ok
    (s := before) (stocked_performAll hs hcalls)
  have hnow := hsteps.trans
    (Workspace.steps_of_outcome (Workspace.keeps_resolve p.manifest) hsound hrun)
  have hconfined := Workspace.confined_of_resolve hsound hfind hrun
  have hroot := Workspace.isResolvedAt_of_resolve hsound (by simp [hfind]) hrun
  refine ⟨now, hrun, fun key hneeded => ?_, fun q hq hold => ?_, hconfined.others⟩
  · have hbegun := isResolvedAt_of_needed hnow hroot hneeded
    obtain ⟨q, hq⟩ := Option.isSome_iff_exists.1 (isSome_find?_of_isResolvedAt hbegun)
    exact ⟨q, hq, (isResolvedAt_of_find? hq).symm.trans hbegun⟩
  · exact hconfined.begun q.manifest q (find?_of_mem hsound.distinct hq) hold

/-- Of three manifests the first needs all, and the other two need each other. -/
def tangledSource : ManifestSource :=
  .ofTable bareHost [
    ("/a", ⟨"A", "/", {}, [⟨"a", "", false⟩, ⟨"b", "/b", false⟩, ⟨"c", "/c", false⟩]⟩),
    ("/b", ⟨"B", "/", {}, [⟨"c", "/c", false⟩]⟩),
    ("/c", ⟨"C", "/", {}, [⟨"b", "/b", false⟩]⟩)]

/-- The cycle is there before the first manifest is asked for. -/
def tangledCalls : List Call :=
  [.register tangledSource "/c", .resolve tangledSource "/c", .register tangledSource "/a"]

def tangledPackages : List Package := [
  { manifest := "/c", name := "C", directory := "/", paths := {}, isResolved := true,
    dependencies := [⟨⟨"b", "/b", false⟩, some "/b"⟩], requiredBy := ["/b"] },
  { manifest := "/b", name := "B", directory := "/", paths := {}, isResolved := true,
    dependencies := [⟨⟨"c", "/c", false⟩, some "/c"⟩], requiredBy := ["/c"] },
  { manifest := "/a", name := "A", directory := "/", paths := {},
    dependencies := [⟨⟨"a", "", false⟩, none⟩, ⟨⟨"b", "/b", false⟩, none⟩,
      ⟨⟨"c", "/c", false⟩, none⟩] }]

theorem packages_tangled :
    (({} : Session).performAll tangledCalls).workspace.registry.packages = tangledPackages := by cbv

theorem fixed_tangled : tangledSource.Fixed bareHost := by
  have ha : bareHost.canonical "/a" = .ok "/a" := by cbv
  have hb : bareHost.canonical "/b" = .ok "/b" := by cbv
  have hc : bareHost.canonical "/c" = .ok "/c" := by cbv
  refine .table _ ?_ ?_
  · simp [ha, hb, hc]
  · simp [hb, hc]

/-- Looking for what the first package needs begins it. Of the third package, which has been begun
before, it changes nothing but the dependents behind the first one. -/
theorem resolve_closes_tangled :
    tangledSource.Fixed bareHost ∧ ({} : Session).workspace.registry = {} ∧
      (∀ c ∈ tangledCalls, ∀ other ∈ c.source?, other = tangledSource) ∧
      tangledPackages[2] ∈ (({} : Session).performAll tangledCalls).workspace.registry.packages ∧
      ∃ now more,
        outcome (Workspace.resolve tangledSource "/a")
          (({} : Session).performAll tangledCalls).workspace = (.ok (), now) ∧
        now.registry.isResolvedAt "/a" = true ∧
        now.registry.find? "/c" =
          some { tangledPackages[0] with requiredBy := "/b" :: more } := by
  have hcalls : ∀ c ∈ tangledCalls, ∀ other ∈ c.source?, other = tangledSource := by
    simp [tangledCalls, Call.source?]
  have hcloses := resolve_closes bareHost tangledSource fixed_tangled {} rfl tangledCalls hcalls
  have hfirst : tangledPackages[2] ∈
      (({} : Session).performAll tangledCalls).workspace.registry.packages :=
    packages_tangled.symm ▸ List.getElem_mem _
  have hthird : tangledPackages[0] ∈
      (({} : Session).performAll tangledCalls).workspace.registry.packages :=
    packages_tangled.symm ▸ List.getElem_mem _
  obtain ⟨now, hrun, hneeded, hbegun, -⟩ := hcloses _ hfirst
  obtain ⟨q, hq, hresolved⟩ := hneeded "/a" .refl
  obtain ⟨more, hmore⟩ := hbegun _ hthird rfl
  exact ⟨fixed_tangled, rfl, hcalls, hfirst, now, more, hrun,
    (isResolvedAt_of_find? hq).trans hresolved, hmore⟩

end Session

end PascalWorkspace
