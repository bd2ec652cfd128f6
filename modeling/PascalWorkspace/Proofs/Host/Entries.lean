import PascalWorkspace.Proofs.FileTree.WellFormed
import PascalWorkspace.Proofs.Host.Canonical

/-! What it says about a path that the machine answers a question about it, or does not. -/
namespace PascalWorkspace

/-- An error of the operating system. -/
def PathError.IsRefusal (e : PathError) : Prop := ∃ reason path, e = .refused reason path

namespace Host

open FileTree

variable {h : Host} {names : List String} {p directory : Path} {bytes : List UInt8} {e : PathError}

/-- What answers a question with yes leads somewhere. -/
theorem exists_locate_of_test {question : Entry → Bool} (hp : h.test question p = .ok true) :
    ∃ loc, h.locate p = .ok loc ∧ question ((h.tree.entryAt loc).getD .directory) = true := by
  unfold test entry? at hp
  cases hloc : h.locate p with
  | error e =>
    rw [hloc] at hp
    cases e with
    | refused reason path => cases reason <;> cases hp
    | _ => cases hp
  | ok loc =>
    rw [hloc] at hp
    exact ⟨loc, rfl, Except.ok.inj hp⟩

theorem exists_locate_of_readFile (hok : h.readFile p = .ok bytes) :
    ∃ loc, h.locate p = .ok loc := by
  unfold readFile entry? at hok
  cases hloc : h.locate p with
  | error e => simp [hloc] at hok
  | ok loc => exact ⟨loc, rfl⟩

theorem exists_of_childNames (hok : h.childNames directory = .ok names) :
    ∃ loc, h.locate directory = .ok loc ∧ h.tree.entryAt loc = some .directory ∧
      names = h.tree.childNames loc := by
  unfold childNames at hok
  split at hok
  · cases hok
  · next loc hloc =>
    split at hok
    · next hentry => exact ⟨loc, hloc, hentry, (Except.ok.inj hok).symm⟩
    · cases hok

theorem locate_eq_error (herror : h.locate p = .error e) :
    e = .holdsNul ∧ holdsNul p = true ∨ e.IsRefusal := by
  unfold locate at herror
  split at herror
  · next hnul => exact .inl ⟨(Except.error.inj herror).symm, hnul⟩
  · split at herror
    · cases herror
    · exact .inr ⟨_, _, (Except.error.inj herror).symm⟩

theorem isRefusal_of_readFile (hnul : holdsNul p = false) (herror : h.readFile p = .error e) :
    e.IsRefusal := by
  unfold readFile entry? at herror
  cases hloc : h.locate p with
  | ok loc =>
    simp only [hloc] at herror
    split at herror
    · next heq => cases heq
    · cases herror
    all_goals exact ⟨_, _, (Except.error.inj herror).symm⟩
  | error fault =>
    simp only [hloc] at herror
    obtain rfl := Except.error.inj herror
    exact (locate_eq_error hloc).resolve_left fun hholds => by simp [hnul] at hholds

/-- A file can be read unless the operating system refuses it. -/
theorem readFile_of_isFile (hp : h.isFile p = .ok true) :
    (∃ bytes, h.readFile p = .ok bytes) ∨ h.readFile p = .error (.refused .denied p.toString) := by
  obtain ⟨loc, hloc, hfile⟩ := exists_locate_of_test hp
  unfold readFile entry?
  rw [hloc]
  dsimp only
  cases hentry : (h.tree.entryAt loc).getD .directory with
  | file bytes => exact .inl ⟨bytes, rfl⟩
  | closedFile => exact .inr rfl
  | _ => simp [hentry] at hfile

theorem isFile_of_isFileAt (hp : h.isFileAt p = .ok true) : h.isFile p = .ok true := by
  unfold isFileAt at hp
  split at hp
  · cases hp
  · split at hp
    · cases hp
    · exact hp

/-- What can be read is a file. -/
theorem isFile_of_readFile (hp : h.readFile p = .ok bytes) : h.isFile p = .ok true := by
  unfold readFile at hp
  unfold isFile test
  cases hentry : h.entry? p with
  | error e => simp [hentry] at hp
  | ok entry =>
    cases entry with
    | file content => rfl
    | _ => simp [hentry] at hp

/-- A directory that leads somewhere can be listed unless the operating system refuses it. -/
theorem isRefusal_of_childNames {loc : Location} (hloc : h.locate directory = .ok loc)
    (herror : h.childNames directory = .error e) : e.IsRefusal := by
  rw [childNames, hloc] at herror
  dsimp only at herror
  split at herror
  · cases herror
  · exact ⟨_, _, (Except.error.inj herror).symm⟩

/-- A question is refused for a name that is too long or a directory that must not be searched, and
for nothing else. -/
theorem locate_of_test_eq_error {question : Entry → Bool} (herror : h.test question p = .error e) :
    (e = .refused .nameTooLong p.toString ∨ e = .refused .denied p.toString) ∧
      h.locate p = .error e := by
  unfold test entry? at herror
  cases hloc : h.locate p with
  | ok loc => simp [hloc] at herror
  | error fault =>
    simp only [hloc] at herror
    unfold locate at hloc
    split at hloc
    · obtain rfl := Except.error.inj hloc
      cases herror
    · split at hloc
      · cases hloc
      · next reason hfollow =>
        obtain rfl := Except.error.inj hloc
        have hdirectory := follow_ne_isDirectory h.tree maxLinks (h.start p) p.parts
        cases reason with
        | isDirectory => exact absurd hfollow hdirectory
        | nameTooLong =>
          obtain rfl := Except.error.inj herror
          exact ⟨.inl rfl, rfl⟩
        | denied =>
          obtain rfl := Except.error.inj herror
          exact ⟨.inr rfl, rfl⟩
        | _ => cases herror

/-- A path of any length is refused for a length besides. -/
theorem locate_of_isFileAt_eq_error (herror : h.isFileAt p = .error e) :
    e = .refused .nameTooLong p.toString ∧
        (maxPathBytes ≤ p.toString.utf8ByteSize ∨ h.locate p = .error e) ∨
      e = .refused .denied p.toString ∧ h.locate p = .error e := by
  unfold isFileAt at herror
  split at herror
  · cases herror
  · split at herror
    · next hlong => exact .inl ⟨(Except.error.inj herror).symm, .inl hlong⟩
    · obtain ⟨hname | hdenied, hlocate⟩ := locate_of_test_eq_error herror
      · exact .inl ⟨hname, .inr hlocate⟩
      · exact .inr ⟨hdenied, hlocate⟩

theorem isRefusal_of_test {question : Entry → Bool} (herror : h.test question p = .error e) :
    e.IsRefusal := by
  obtain ⟨rfl | rfl, -⟩ := locate_of_test_eq_error herror
  · exact ⟨_, _, rfl⟩
  · exact ⟨_, _, rfl⟩

end Host

end PascalWorkspace
