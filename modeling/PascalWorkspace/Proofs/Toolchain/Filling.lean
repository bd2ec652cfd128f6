import PascalWorkspace.Proofs.Text.Wide
import PascalWorkspace.Toolchain.Basic

/-! Where a setting of a toolchain comes from: of the values that are found for it one after another
the first that is not empty stays, whatever is found for the other settings. -/
namespace PascalWorkspace

/-- The first value that is not empty, and the empty text if there is none. -/
def firstNonEmpty (values : List Text.Wide) : Text.Wide := (values.find? (!·.isEmpty)).getD ""

theorem firstNonEmpty_cons (value : Text.Wide) (values : List Text.Wide) :
    firstNonEmpty (value :: values) = if value.isEmpty then firstNonEmpty values else value := by
  cases h : value.isEmpty <;> simp [firstNonEmpty, h]

theorem firstNonEmpty_singleton (value : Text.Wide) : firstNonEmpty [value] = value := by
  rw [firstNonEmpty_cons]
  split
  · next h => exact (Text.Wide.isEmpty_iff.1 h).symm
  · rfl

/-- Values in front can be replaced by the first of them that counts. -/
theorem firstNonEmpty_append (values rest : List Text.Wide) :
    firstNonEmpty (values ++ rest) = firstNonEmpty (firstNonEmpty values :: rest) := by
  induction values with
  | nil => rfl
  | cons value values ih =>
    rw [List.cons_append, firstNonEmpty_cons, firstNonEmpty_cons value values]
    split
    · exact ih
    · next h => rw [firstNonEmpty_cons, if_neg h]

/-- So can those behind. -/
theorem firstNonEmpty_pair (value : Text.Wide) (values : List Text.Wide) :
    firstNonEmpty [value, firstNonEmpty values] = firstNonEmpty (value :: values) := by
  rw [firstNonEmpty_cons value, firstNonEmpty_singleton, ← firstNonEmpty_cons]

namespace Toolchain

variable {t : Toolchain}

theorem get_set (t : Toolchain) (value : Text.Wide) (s s' : Setting) :
    (t.set value s).get s' = if s' = s then value else t.get s' := by
  cases s <;> cases s' <;> rfl

/-- A value that is found for a setting counts only where nothing has been found before. -/
theorem get_fill (t : Toolchain) (s s' : Setting) (value : Text.Wide) :
    (t.fill s value).get s' = if s' = s then firstNonEmpty [t.get s', value] else t.get s' := by
  rw [fill]
  by_cases hs : s' = s
  · subst hs
    rw [if_pos rfl, firstNonEmpty_cons, firstNonEmpty_singleton]
    cases hknown : (t.get s').isEmpty with
    | false => simp [accepts, hknown]
    | true =>
      cases hvalue : value.isEmpty with
      | false => simp [accepts, hknown, hvalue, get_set]
      | true =>
        rw [Text.Wide.isEmpty_iff] at hknown hvalue
        simp [accepts, hknown, hvalue]
  · rw [if_neg hs]
    split
    · rw [get_set, if_neg hs]
    · rfl

/-! ### Several values in turn -/

/-- Takes values for settings in turn. -/
def fillAll (t : Toolchain) (values : List (Setting × Text.Wide)) : Toolchain :=
  values.foldl (fun t v => t.fill v.1 v.2) t

/-- The values among some that are meant for a setting. -/
def valuesFor (s : Setting) (values : List (Setting × Text.Wide)) : List Text.Wide :=
  (values.filter (·.1 = s)).map (·.2)

theorem fillAll_append (t : Toolchain) (values more : List (Setting × Text.Wide)) :
    t.fillAll (values ++ more) = (t.fillAll values).fillAll more := List.foldl_append

theorem get_fillAll (t : Toolchain) (s : Setting) (values : List (Setting × Text.Wide)) :
    (t.fillAll values).get s = firstNonEmpty (t.get s :: valuesFor s values) := by
  induction values generalizing t with
  | nil => exact (firstNonEmpty_singleton _).symm
  | cons v values ih =>
    have hstep : (t.fillAll (v :: values)).get s =
        firstNonEmpty ((t.fill v.1 v.2).get s :: valuesFor s values) := ih _
    rw [hstep, get_fill]
    by_cases hs : s = v.1
    · have hfor : valuesFor s (v :: values) = v.2 :: valuesFor s values := by
        simp [valuesFor, hs]
      rw [if_pos hs, hfor]
      exact (firstNonEmpty_append [t.get s, v.2] _).symm
    · have hfor : valuesFor s (v :: values) = valuesFor s values := by
        simp [valuesFor, Ne.symm hs]
      rw [if_neg hs, hfor]

/-! ### The client and the environment -/

/-- The value of the environment variable of a setting, empty if there is none. -/
def environmentValue (env : Environment) (s : Setting) : Text.Wide :=
  (s.key?.bind env.get?).getD ""

/-- The text that the options of a client give for a setting, empty if they give none. -/
def optionText (members : Json.Members) (s : Setting) : Text.Wide :=
  match s.key?.bind fun key => members.lookup (.plain key) with
  | some (.text value) => value
  | _ => ""

theorem get_withEnvironment (t : Toolchain) (env : Environment) {s : Setting}
    (hs : s ∈ Setting.guessable) :
    (t.withEnvironment env).get s = firstNonEmpty [t.get s, environmentValue env s] := by
  have hfill : t.withEnvironment env =
      t.fillAll (Setting.guessable.map fun s => (s, environmentValue env s)) := rfl
  have hfor : valuesFor s (Setting.guessable.map fun s => (s, environmentValue env s)) =
      [environmentValue env s] := by
    cases s <;> simp [Setting.guessable] at hs <;> rfl
  rw [hfill, get_fillAll, hfor]

/-- Takes over what the options of a client give for one setting, empty text included. -/
def takeText (members : Json.Members) (t : Toolchain) (s : Setting) : Toolchain :=
  match s.key?.bind fun key => members.lookup (.plain key) with
  | some (.text value) => t.set value s
  | _ => t

theorem get_takeText_of_ne (members : Json.Members) {s s' : Setting} (h : s' ≠ s) :
    (takeText members t s).get s' = t.get s' := by
  unfold takeText
  split
  · rw [get_set, if_neg h]
  · rfl

theorem get_takeText_self (members : Json.Members) {s : Setting}
    (h : t.get s = "") : (takeText members t s).get s = optionText members s := by
  unfold takeText optionText
  split
  · rw [get_set, if_pos rfl]
  · exact h

theorem get_foldl_takeText_of_not_mem (members : Json.Members) {s : Setting}
    {settings : List Setting} (hs : s ∉ settings) :
    (settings.foldl (takeText members) t).get s = t.get s := by
  induction settings generalizing t with
  | nil => rfl
  | cons other rest ih =>
    obtain ⟨hne, hrest⟩ := List.ne_and_not_mem_of_not_mem_cons hs
    exact (ih hrest).trans (get_takeText_of_ne members hne)

/-- Every setting is looked for once, so what comes after it does not change it. -/
theorem get_foldl_takeText (members : Json.Members) {s : Setting}
    {settings : List Setting} (hnodup : settings.Nodup) (hs : s ∈ settings) (ht : t.get s = "") :
    (settings.foldl (takeText members) t).get s = optionText members s := by
  induction settings generalizing t with
  | nil => cases hs
  | cons other rest ih =>
    obtain ⟨hfresh, hnodup⟩ := List.nodup_cons.1 hnodup
    by_cases hself : s = other
    · subst hself
      exact (get_foldl_takeText_of_not_mem members hfresh).trans (get_takeText_self members ht)
    · apply ih hnodup
      · exact (List.mem_cons.1 hs).resolve_left hself
      · rw [get_takeText_of_ne members hself, ht]

theorem get_withClientMembers (members : Json.Members) {s : Setting}
    (hs : s ∈ Setting.guessable) :
    (({} : Toolchain).withClientMembers members).get s = optionText members s := by
  have htake : ({} : Toolchain).withClientMembers members =
      Setting.guessable.foldl (takeText members) {} := rfl
  rw [htake]
  apply get_foldl_takeText members (by decide) hs
  cases s <;> rfl

/-- The text that a client gives for a setting, empty if it gives none. -/
def clientText (options : Json.Value) (s : Setting) : Text.Wide :=
  match options with
  | .object members => optionText members s
  | _ => ""

theorem get_withClientOptions {options : Json.Value}
    (h : ({} : Toolchain).withClientOptions options = .ok t) {s : Setting}
    (hs : s ∈ Setting.guessable) : t.get s = clientText options s := by
  cases options with
  | null =>
    cases h
    cases s <;> rfl
  | object members =>
    cases h
    exact get_withClientMembers members hs
  | _ => cases h

/-- A setting stays as it is unless the options of the client have a text for it. -/
theorem get_takeText (members : Json.Members) (t : Toolchain) (s s' : Setting) :
    (takeText members t s).get s' = t.get s' ∨
      s' = s ∧ (s.key?.bind fun key => members.lookup (.plain key)) =
        some (.text ((takeText members t s).get s')) := by
  by_cases hs : s' = s
  · subst hs
    unfold takeText
    split
    · next value hvalue =>
      rw [get_set, if_pos rfl]
      exact .inr ⟨rfl, hvalue⟩
    · exact .inl rfl
  · exact .inl (get_takeText_of_ne members hs)

theorem get_foldl_takeText_or (members : Json.Members) (settings : List Setting)
    (t : Toolchain) (s : Setting) :
    (settings.foldl (takeText members) t).get s = t.get s ∨ s ∈ settings ∧
      (s.key?.bind fun key => members.lookup (.plain key)) =
        some (.text ((settings.foldl (takeText members) t).get s)) := by
  induction settings generalizing t with
  | nil => exact .inl rfl
  | cons other rest ih =>
    obtain hrest | ⟨hmem, hgiven⟩ := ih (takeText members t other)
    · obtain hsame | ⟨rfl, hgiven⟩ := get_takeText members t other s
      · exact .inl (hrest.trans hsame)
      · refine .inr ⟨List.mem_cons_self, ?_⟩
        rw [hgiven, List.foldl_cons, hrest]
    · exact .inr ⟨List.mem_cons_of_mem _ hmem, hgiven⟩

/-- Taking options of a client changes a setting only to a text that they have for it. -/
theorem get_of_withClientOptions {options : Json.Value} {t t' : Toolchain}
    (h : t.withClientOptions options = .ok t') (s : Setting) :
    t'.get s = t.get s ∨ s ∈ Setting.guessable ∧ ∃ members, options = .object members ∧
      (s.key?.bind fun key => members.lookup (.plain key)) = some (.text (t'.get s)) := by
  cases options with
  | null =>
    cases h
    exact .inl rfl
  | object members =>
    obtain rfl : Setting.guessable.foldl (takeText members) t = t' := Except.ok.inj h
    obtain hsame | ⟨hguess, hgiven⟩ := get_foldl_takeText_or members Setting.guessable t s
    · exact .inl hsame
    · exact .inr ⟨hguess, members, rfl, hgiven⟩
  | _ => cases h

end Toolchain

end PascalWorkspace
