import Mathlib.Data.String.Basic
import PascalWorkspace.Proofs.FileTree.Clean

/-! What canonical spellings look like: they are absolute, without dots, and of names that files can
have, also where a link leads back to itself. -/
namespace PascalWorkspace

/-- An absolute path of names that files can have. -/
structure Path.Spelled (p : Path) : Prop where
  absolute : p.anchor ≠ .relative
  names : ∀ part ∈ p.parts, FileTree.IsFileName part

namespace FileTree

variable {t : FileTree} {fuel : Nat} {loc : Location} {name text rest : String} {seen : Visited}
  {place reached : Place} {tasks : List Task} {steps done names : List String} {texts : List String}

/-! ### The text left when a link leads back to itself -/

/-- A text that begins with a slash and holds no NUL character. -/
structure IsRootedText (text : String) : Prop where
  rooted : text.toList.head? = some '/'
  noNul : '\x00' ∉ text.toList

theorem noNul_intercalate (h : ∀ name ∈ names, '\x00' ∉ name.toList) :
    '\x00' ∉ ("/".intercalate names).toList := by
  rw [String.toList_intercalate]
  induction names with
  | nil => simp
  | cons name others ih =>
    obtain ⟨hname, hothers⟩ := List.forall_mem_cons.1 h
    cases others with
    | nil => simpa using hname
    | cons next others =>
      rw [List.map_cons, List.map_cons, List.intercalate_cons_cons, ← List.map_cons]
      simp only [List.mem_append, not_or]
      exact ⟨⟨hname, by decide⟩, ih hothers⟩

theorem toList_rootedText (loc : Location) :
    (rootedText loc).toList = '/' :: ("/".intercalate loc).toList := Path.toList_slash _

theorem isRootedText_rootedText (h : ∀ name ∈ loc, '\x00' ∉ name.toList) :
    IsRootedText (rootedText loc) := by
  refine ⟨by rw [toList_rootedText, List.head?_cons], ?_⟩
  rw [toList_rootedText, List.mem_cons, not_or]
  exact ⟨by decide, noNul_intercalate h⟩

theorem head?_appendText (h : text.toList.head? = some '/') :
    (appendText text rest).toList.head? = some '/' := by
  have hhead (more : String) : (text ++ more).toList.head? = some '/' := by
    rw [String.toList_append, List.head?_append, h]
    rfl
  unfold appendText
  split
  · next hstart =>
    obtain ⟨more, hmore⟩ := String.startsWith_string_iff.1 hstart
    rw [← hmore]
    rfl
  · split
    · exact hhead rest
    · rw [String.append_assoc]
      exact hhead _

theorem IsRootedText.appendText (h : IsRootedText text) (hrest : '\x00' ∉ rest.toList) :
    IsRootedText (appendText text rest) := by
  refine ⟨head?_appendText h.rooted, ?_⟩
  unfold FileTree.appendText
  split
  · exact hrest
  · split
    · rw [String.toList_append, List.mem_append, not_or]
      exact ⟨h.noNul, hrest⟩
    · rw [String.append_assoc, String.toList_append, Path.toList_slash, List.mem_append,
        List.mem_cons, not_or, not_or]
      exact ⟨h.noNul, by decide, hrest⟩

theorem mem_remainders (h : steps ∈ remainders tasks) (hname : name ∈ steps) :
    .step name ∈ tasks := by
  induction tasks generalizing steps with
  | nil =>
    obtain rfl := List.mem_singleton.1 h
    cases hname
  | cons task tasks ih =>
    cases task with
    | linkDone =>
      obtain rfl | h := List.mem_cons.1 h
      · cases hname
      · exact List.mem_cons_of_mem _ (ih h hname)
    | step first =>
      rw [remainders] at h
      split at h
      · obtain rfl := List.mem_singleton.1 h
        obtain rfl := List.mem_singleton.1 hname
        exact List.mem_cons_self
      · next later more hrest =>
        rw [hrest] at ih
        obtain rfl | h := List.mem_cons.1 h
        · obtain rfl | hname := List.mem_cons.1 hname
          · exact List.mem_cons_self
          · exact List.mem_cons_of_mem _ (ih List.mem_cons_self hname)
        · exact List.mem_cons_of_mem _ (ih (List.mem_cons_of_mem _ h) hname)

theorem isRootedText_stuckText (hloc : ∀ name ∈ loc, '\x00' ∉ name.toList)
    (htasks : ∀ name, .step name ∈ tasks → '\x00' ∉ name.toList) :
    IsRootedText (stuckText loc tasks) := by
  have htexts : ∀ text ∈ (remainders tasks).map ("/".intercalate ·), '\x00' ∉ text.toList := by
    intro text htext
    obtain ⟨steps, hsteps, rfl⟩ := List.mem_map.1 htext
    exact noNul_intercalate fun name hname => htasks name (mem_remainders hsteps hname)
  have hall (texts : List String) (begun : String) (hbegun : IsRootedText begun)
      (htexts : ∀ text ∈ texts, '\x00' ∉ text.toList) :
      IsRootedText (texts.foldl appendText begun) := by
    induction texts generalizing begun with
    | nil => exact hbegun
    | cons text texts ih =>
      obtain ⟨htext, htexts⟩ := List.forall_mem_cons.1 htexts
      exact ih _ (hbegun.appendText htext) htexts
  exact hall _ _ (isRootedText_rootedText hloc) htexts

/-- What is left of a path for which double dots go up are its other names. -/
theorem mem_collapse (h : name ∈ collapse done names) :
    name ∈ done ∨ name ∈ names ∧ name ≠ ".." := by
  fun_induction collapse done names with
  | case1 done => exact .inl (List.mem_reverse.1 h)
  | case2 done rest ih =>
    obtain h | ⟨h, hne⟩ := ih h
    · exact .inl (List.mem_of_mem_tail h)
    · exact .inr ⟨List.mem_cons_of_mem _ h, hne⟩
  | case3 done first rest hup ih =>
    obtain h | ⟨h, hne⟩ := ih h
    · obtain rfl | h := List.mem_cons.1 h
      · exact .inr ⟨List.mem_cons_self, hup⟩
      · exact .inl h
    · exact .inr ⟨List.mem_cons_of_mem _ h, hne⟩

theorem goesDown_of_isPart (h : Path.IsPart name) (hup : name ≠ "..") : GoesDown name := by
  have hplain : name ≠ "" ∧ name ≠ "." := by simpa [Path.isPlainPart] using h.plain
  exact ⟨hplain.1, hplain.2, hup⟩

theorem spelled_stuckPath (hloc : ∀ name ∈ place.location, '\x00' ∉ name.toList)
    (htasks : ∀ name, .step name ∈ tasks → '\x00' ∉ name.toList) :
    (stuckPath place tasks).Spelled := by
  obtain ⟨hrooted, hnul⟩ := isRootedText_stuckText hloc htasks
  refine ⟨Path.anchorOfChars_ne_relative hrooted, fun name hname => ?_⟩
  obtain hname | ⟨hname, hup⟩ := mem_collapse hname
  · cases hname
  · have hpart := Path.isPart_of_mem_ofString hname
    have hpiece := Path.mem_pieces (List.mem_of_mem_filter hname)
    have hstep : IsStepName name := ⟨hpart.noSlash, fun h => hnul (hpiece.2 h)⟩
    exact hstep.isFileName (goesDown_of_isPart hpart hup)

theorem stuckPath_absolute (place : Place) (tasks : List Task) :
    (stuckPath place tasks).anchor ≠ .relative := by
  have hall (texts : List String) (begun : String) (hbegun : begun.toList.head? = some '/') :
      (texts.foldl appendText begun).toList.head? = some '/' := by
    induction texts generalizing begun with
    | nil => exact hbegun
    | cons text texts ih => exact ih _ (head?_appendText hbegun)
  exact Path.anchorOfChars_ne_relative
    (hall _ _ (by rw [toList_rootedText, List.head?_cons]))

/-! ### The search -/

/-- Every search ends with an absolute path. -/
theorem trace_absolute (t : FileTree) (fuel : Nat) (seen : Visited) (place : Place)
    (tasks : List Task) : (t.trace fuel seen place tasks).anchor ≠ .relative := by
  fun_induction FileTree.trace t fuel seen place tasks with
  | case1 => simp
  | case6 | case7 => exact stuckPath_absolute _ _
  | case2 _ _ _ _ _ ih | case3 _ _ _ _ _ _ ih | case4 _ _ _ _ _ ih => exact ih
  | case5 _ _ _ _ _ _ _ _ _ _ _ _ ih | case8 _ _ _ _ _ _ _ _ _ _ _ _ ih => exact ih
  | case9 _ _ _ _ _ _ _ _ _ ih => exact ih

theorem Visited.mem_of_find {result : Option Place} (h : seen.find place = some result) :
    (place, result) ∈ seen := by
  obtain ⟨⟨link, _⟩, hfind, rfl⟩ := Option.map_eq_some_iff.1 h
  obtain rfl : link = place := by simpa using List.find?_some hfind
  exact List.mem_of_find?_eq_some hfind

/-- What a search deals with has names that files can have. -/
structure Legible (seen : Visited) (place : Place) (tasks : List Task) : Prop where
  here : ∀ name ∈ place.location, IsFileName name
  met : ∀ link reached, (link, some reached) ∈ seen → ∀ name ∈ reached.location, IsFileName name
  steps : ∀ name, .step name ∈ tasks → IsStepName name

theorem Legible.tail {task : Task} (h : Legible seen place (task :: tasks)) :
    Legible seen place tasks :=
  ⟨h.here, h.met, fun name hname => h.steps name (List.mem_cons_of_mem _ hname)⟩

theorem Legible.next (h : Legible seen place (.step name :: tasks)) (hdown : GoesDown name) :
    Legible seen { place with location := place.location ++ [name] } tasks := by
  refine ⟨fun part hpart => ?_, h.met, h.tail.steps⟩
  obtain hpart | hpart := List.mem_append.1 hpart
  · exact h.here part hpart
  · obtain rfl := List.mem_singleton.1 hpart
    exact (h.steps part List.mem_cons_self).isFileName hdown

theorem Legible.stuck (h : Legible seen place tasks) : (stuckPath place tasks).Spelled :=
  spelled_stuckPath (fun name hname => (h.here name hname).noNul)
    fun name hname => (h.steps name hname).noNul

/-- A search among names that files can have finds a spelling. -/
theorem Legible.spelled
    (ht : ∀ link target, t.entryAt link = some (.link target) → '\x00' ∉ target.toList)
    (h : Legible seen place tasks) : (t.trace fuel seen place tasks).Spelled := by
  fun_induction FileTree.trace t fuel seen place tasks with
  | case1 fuel seen place => exact ⟨by simp, h.here⟩
  | case2 fuel seen place link tasks ih =>
    refine ih ⟨h.here, fun other reached hother => ?_, h.tail.steps⟩
    obtain heq | hother := List.mem_cons.1 hother
    · obtain ⟨-, hreached⟩ := Prod.mk.inj heq
      obtain rfl := Option.some.inj hreached
      exact h.here
    · exact h.met other reached hother
  | case3 fuel seen place name tasks hstay ih => exact ih h.tail
  | case4 fuel seen place tasks hstay ih =>
    exact ih ⟨fun name hname => h.here name (List.mem_of_mem_dropLast hname), h.met, h.tail.steps⟩
  | case5 fuel seen place name tasks hstay hup next target hentry reached hmet ih =>
    exact ih ⟨h.met _ reached (Visited.mem_of_find hmet), h.met, h.tail.steps⟩
  | case6 fuel seen place name tasks hstay hup next target hentry hbusy =>
    exact (h.next (goesDown_of_not_stay hstay hup)).stuck
  | case7 seen place name tasks hstay hup next target hentry hnew =>
    exact (h.next (goesDown_of_not_stay hstay hup)).stuck
  | case8 seen place name tasks hstay hup next target hentry hnew fuel origin ih =>
    refine ih ⟨?_, fun link reached hlink => ?_, fun step hstep => ?_⟩
    · intro name hname
      dsimp only [origin] at hname
      split at hname
      · cases hname
      · exact h.here name hname
    · obtain heq | hlink := List.mem_cons.1 hlink
      · simp at heq
      · exact h.met link reached hlink
    · obtain hstep | hstep := List.mem_append.1 hstep
      · obtain ⟨piece, hpiece, heq⟩ := List.mem_map.1 hstep
        obtain rfl := Task.step.inj heq
        obtain ⟨hslash, hsub⟩ := Path.mem_pieces hpiece
        exact ⟨hslash, fun hnul => ht _ target hentry (hsub hnul)⟩
      · obtain heq | hstep := List.mem_cons.1 hstep
        · cases heq
        · exact h.tail.steps step hstep
  | case9 fuel seen place name tasks hstay hup next hentry ih =>
    exact ih (h.next (goesDown_of_not_stay hstay hup))

end FileTree

end PascalWorkspace
