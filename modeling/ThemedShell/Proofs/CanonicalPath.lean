import Mathlib.Data.List.Induction
import ThemedShell.Proofs.Components

/-!
# Canonical paths

A normalized path can be written down component by component: a name is joined to the text written so
far, and two dots cut off its last name, if it has one (`foldl_writeOn`). What remains of the names is
what has not been taken back (`TakenBack.kept_eq`), and a path of such names has no other text
(`normalize_is_canonical`).
-/
namespace ThemedShell.Path

open Text (Octets)

/-! ## Names that are taken back -/

/-- What becomes of the names among components, read from left to right. Each pair of dots takes back
the nearest name before it that is still there, if one is; the marks say which names are. -/
inductive TakenBack : List Component → List (FileName × Bool) → Prop where
  | nil : TakenBack [] []
  | name {components : List Component} {marks : List (FileName × Bool)} (name : FileName)
    (before : TakenBack components marks) :
    TakenBack (components ++ [.name name]) (marks ++ [(name, true)])
  | parent {components : List Component} {earlier later : List (FileName × Bool)} {name : FileName}
    (before : TakenBack components (earlier ++ (name, true) :: later))
    (nearest : ∀ mark ∈ later, mark.2 = false) :
    TakenBack (components ++ [.parent]) (earlier ++ (name, false) :: later)
  | nothing {components : List Component} {marks : List (FileName × Bool)}
    (before : TakenBack components marks) (gone : ∀ mark ∈ marks, mark.2 = false) :
    TakenBack (components ++ [.parent]) marks

/-- The names that are still there. -/
def kept (marks : List (FileName × Bool)) : List FileName := (marks.filter (·.2)).map (·.1)

@[simp] theorem kept_append (marks more : List (FileName × Bool)) :
    kept (marks ++ more) = kept marks ++ kept more := by
  simp [kept]

theorem kept_of_gone {marks : List (FileName × Bool)} (gone : ∀ mark ∈ marks, mark.2 = false) :
    kept marks = [] := by
  rw [kept, List.filter_eq_nil_iff.2 fun mark hmark => by simp [gone mark hmark], List.map_nil]

theorem normalNames_concat_name (components : List Component) (name : FileName) :
    normalNames (components ++ [.name name]) = normalNames components ++ [name] :=
  normalNames_append_names components [name]

theorem normalNames_concat_parent (components : List Component) :
    normalNames (components ++ [.parent]) = (normalNames components).dropLast := by
  rw [normalNames, List.foldl_append, List.foldl_cons, List.foldl_nil, stepNames, normalNames,
    ← List.reverse_reverse (List.dropLast _), ← List.tail_reverse, List.reverse_reverse]

namespace TakenBack

variable {components : List Component} {marks : List (FileName × Bool)}

/-- **What has not been taken back remains.** -/
theorem kept_eq (h : TakenBack components marks) : kept marks = normalNames components := by
  induction h with
  | nil => rfl
  | name name _ ih => rw [normalNames_concat_name, ← ih, kept_append]; rfl
  | @parent components earlier later name _ nearest ih =>
    have cut : kept ((name, true) :: later) = [name] := by
      rw [← List.singleton_append, kept_append, kept_of_gone nearest]
      rfl
    have cut' : kept ((name, false) :: later) = [] :=
      kept_of_gone (List.forall_mem_cons.2 ⟨rfl, nearest⟩)
    rw [normalNames_concat_parent, ← ih, kept_append, kept_append, cut, cut', List.append_nil,
      List.dropLast_concat]
  | nothing _ gone ih => rw [normalNames_concat_parent, ← ih, kept_of_gone gone]; rfl

/-- The marks are about the names in their order. -/
theorem map_fst (h : TakenBack components marks) :
    marks.map (·.1) = components.filterMap Component.name? := by
  induction h with
  | nil => rfl
  | name name _ ih => simp [ih, Component.name?]
  | parent _ _ ih => simpa [List.filterMap_cons, Component.name?] using ih
  | nothing _ _ ih => simp [ih, Component.name?]

end TakenBack

/-- No name is there any more, or one of those that are is the last. -/
theorem marks_cases (marks : List (FileName × Bool)) :
    (∀ mark ∈ marks, mark.2 = false) ∨ ∃ earlier name later,
      marks = earlier ++ (name, true) :: later ∧ ∀ mark ∈ later, mark.2 = false := by
  induction marks with
  | nil => exact .inl (by simp)
  | cons mark marks ih =>
    obtain ⟨name, still⟩ := mark
    rcases ih with gone | ⟨earlier, last, later, rfl, nearest⟩
    · cases still with
      | false => exact .inl (List.forall_mem_cons.2 ⟨rfl, gone⟩)
      | true => exact .inr ⟨[], name, marks, rfl, gone⟩
    · exact .inr ⟨(name, still) :: earlier, last, later, rfl, nearest⟩

theorem exists_takenBack (components : List Component) : ∃ marks, TakenBack components marks := by
  induction components using List.reverseRecOn with
  | nil => exact ⟨[], .nil⟩
  | append_singleton components component ih =>
    obtain ⟨marks, before⟩ := ih
    cases component with
    | name name => exact ⟨_, before.name name⟩
    | parent =>
      rcases marks_cases marks with gone | ⟨earlier, name, later, rfl, nearest⟩
      · exact ⟨marks, before.nothing gone⟩
      · exact ⟨_, before.parent nearest⟩

/-! ## The text that is written -/

/-- The text before the last slash, or the root if there is none before that slash. -/
def above (p : Path) : Path :=
  match p.bytes.reverse.dropWhile (· ≠ slash) with
  | [] => ⟨[]⟩
  | [_] => root
  | _ :: before => ⟨before.reverse⟩

/-- The text once one more component has been written. -/
def writeOn (p : Path) : Component → Path
  | .parent => p.above
  | .name name => p.join ⟨name⟩

/-- One more name stands behind a slash of its own, unless it is the first. -/
theorem bytes_ofNames_concat (absolute : Bool) (names : List FileName) (name : FileName) :
    (ofNames absolute (names ++ [name])).bytes =
      (ofNames absolute names).bytes ++ (if names = [] then [] else [slash]) ++ name := by
  have joined : [slash].intercalate (names ++ [name]) =
      [slash].intercalate names ++ (if names = [] then [] else [slash]) ++ name := by
    induction names with
    | nil => simp
    | cons first rest ih =>
      cases rest with
      | nil => simp [List.intercalate_cons_cons]
      | cons second rest =>
        rw [List.cons_append, List.cons_append, List.intercalate_cons_cons,
          List.intercalate_cons_cons, ← List.cons_append, ih]
        simp
  rw [ofNames, ofNames, joined]
  simp

/-- A slash is due behind names. -/
theorem needsSlash_ofNames {names : List FileName} (h : ∀ name ∈ names, IsName name)
    (absolute : Bool) : (ofNames absolute names).needsSlash = decide (names ≠ []) := by
  rcases List.eq_nil_or_concat' names with rfl | ⟨earlier, name, rfl⟩
  · cases absolute <;> decide
  · have last : IsName name := h name (by simp)
    obtain ⟨init, b, hb⟩ := List.eq_nil_or_concat' name |>.resolve_left last.ne_nil
    have : b ≠ slash := fun e => last.no_slash (by simp [hb, e])
    rw [needsSlash, bytes_ofNames_concat, List.getLast?_append_of_ne_nil _ last.ne_nil, hb]
    simpa using this

theorem join_ofNames {names : List FileName} (h : ∀ name ∈ names, IsName name) {name : FileName}
    (isName : IsName name) (absolute : Bool) :
    (ofNames absolute names).join ⟨name⟩ = ofNames absolute (names ++ [name]) := by
  have written : ofNames absolute (names ++ [name]) = ⟨_⟩ :=
    congrArg Path.mk (bytes_ofNames_concat absolute names name)
  rw [join_of_relative (isAbsolute_of_isName isName), needsSlash_ofNames h, written]
  cases names <;> simp

theorem above_ofNames_concat {names : List FileName} (h : ∀ name ∈ names, IsName name)
    {name : FileName} (isName : IsName name) (absolute : Bool) :
    (ofNames absolute (names ++ [name])).above = ofNames absolute names := by
  have passed : ∀ b ∈ name.reverse, decide (b ≠ slash) = true := fun b hb => by
    have : b ≠ slash := fun e => isName.no_slash (e ▸ List.mem_reverse.1 hb)
    simpa using this
  rw [above, bytes_ofNames_concat, List.reverse_append, List.dropWhile_append_of_pos passed]
  cases names with
  | nil => cases absolute <;> rfl
  | cons first rest =>
    have due := needsSlash_ofNames h absolute
    generalize ofNames absolute (first :: rest) = written at due ⊢
    obtain ⟨bytes⟩ := written
    -- There is something before the slash that is cut off with the name.
    obtain ⟨init, b, rfl⟩ := (List.eq_nil_or_concat' bytes).resolve_left (by rintro rfl; cases due)
    simp

/-- **Written down component by component.** -/
theorem foldl_writeOn {components : List Component}
    (h : ∀ name, Component.name name ∈ components → IsName name) (absolute : Bool) :
    components.foldl writeOn (ofNames absolute []) = ofNames absolute (normalNames components) := by
  induction components using List.reverseRecOn with
  | nil => rfl
  | append_singleton components component ih =>
    have isName : ∀ name ∈ normalNames components, IsName name :=
      fun name hname => h name (List.mem_append_left _ (mem_normalNames hname))
    rw [List.foldl_concat, ih fun name hname => h name (List.mem_append_left _ hname)]
    cases component with
    | name name =>
      rw [normalNames_concat_name]
      exact join_ofNames isName (h name (by simp)) absolute
    | parent =>
      rw [normalNames_concat_parent]
      rcases List.eq_nil_or_concat' (normalNames components) with none | ⟨names, name, some⟩
      · rw [none]
        cases absolute <;> rfl
      · rw [some] at isName ⊢
        rw [List.dropLast_concat]
        exact above_ofNames_concat (fun other hother => isName other (by simp [hother]))
          (isName name (by simp)) absolute

/-! ## Normal form -/

theorem normalize_normalize (p : Path) : p.normalize.normalize = p.normalize := by
  rw [normalize, isAbsolute_normalize, components_normalize, normalNames_names, ← normalize]

/-- Only the root ends with a slash. -/
theorem eq_root_of_getLast? {p : Path} (h : p.normalize.bytes.getLast? = some slash) :
    p.normalize = root := by
  have due := needsSlash_ofNames (fun _ hname => isName_of_mem_normalNames (p := p) hname)
    p.isAbsolute
  rw [← normalize, needsSlash, h] at due
  have none : normalNames p.components = [] := by simpa using due
  rw [normalize, none] at h ⊢
  cases habsolute : p.isAbsolute with
  | true => rfl
  | false => simp [ofNames, habsolute] at h

/-- **The normal form is canonical.** Normalizing writes down one component after the other. It leaves
names with single slashes between them, behind a slash if the path is absolute: no dots, nothing
between two slashes, and a slash at the end of the root alone. The names stand in the path in
their order, and they are those that no pair of dots takes back. A normalized path is normal
already, and absolute paths with the same components have the same normal form. -/
theorem normalize_is_canonical (p : Path) :
    p.components.foldl writeOn (if p.isAbsolute then root else ⟨[]⟩) = p.normalize ∧
    (∃ names, (∀ name ∈ names, IsName name) ∧ p.normalize = ofNames p.isAbsolute names ∧
      p.normalize.components = names.map .name ∧
      names.Sublist (p.components.filterMap Component.name?)) ∧
    (p.normalize.bytes.getLast? = some slash → p.normalize = root) ∧
    p.normalize.isAbsolute = p.isAbsolute ∧ p.normalize.normalize = p.normalize ∧
    (∃ marks, TakenBack p.components marks) ∧
    (∀ marks, TakenBack p.components marks →
      marks.map (·.1) = p.components.filterMap Component.name? ∧
      p.normalize.components = (kept marks).map .name) ∧
    ∀ other : Path, p.isAbsolute = true → other.isAbsolute = true →
      p.components = other.components → p.normalize = other.normalize := by
  refine ⟨?written, ⟨normalNames p.components, fun _ => isName_of_mem_normalNames, rfl,
    components_normalize p, normalNames_sublist_names p.components⟩, eq_root_of_getLast?,
    isAbsolute_normalize p, normalize_normalize p, exists_takenBack p.components, ?taken, ?same⟩
  case written =>
    rw [normalize, ← foldl_writeOn fun _ => isName_of_mem_components]
    cases p.isAbsolute <;> rfl
  case taken =>
    intro marks taken
    rw [components_normalize, taken.kept_eq]
    exact ⟨taken.map_fst, rfl⟩
  case same =>
    intro other absolute absolute' components
    exact normalize_congr (absolute.trans absolute'.symm) (by rw [components])

/-- The first pair of dots finds nothing, the others take back the two names before them. -/
theorem roundabout_path_is_normalized :
    let p := ofString "/../a/./b//c/../../d/"
    let other := ofString "//../a/b/c/.././../d"
    let up := ofString "/..//"
    let name (s : String) : FileName := Text.encode s
    let marks := [(name "a", true), (name "b", false), (name "c", false), (name "d", true)]
    TakenBack p.components marks ∧ p.normalize.components = [.name (name "a"), .name (name "d")] ∧
      p.isAbsolute = true ∧ other.isAbsolute = true ∧ p.components = other.components ∧
      p.normalize = other.normalize ∧
      up.normalize.bytes.getLast? = some slash ∧ up.normalize = root := by
  intro p other up name marks
  have folded (a b c d : FileName) :
      TakenBack [.parent, .name a, .name b, .name c, .parent, .parent, .name d]
        [(a, true), (b, false), (c, false), (d, true)] := by
    have none : TakenBack [.parent] [] := .nothing .nil (by simp)
    have all : TakenBack [.parent, .name a, .name b, .name c] [(a, true), (b, true), (c, true)] :=
      ((none.name a).name b).name c
    have last := @TakenBack.parent _ [(a, true), (b, true)] [] c all (by simp)
    have second := @TakenBack.parent _ [(a, true)] [(c, false)] b last (by simp)
    exact second.name d
  have taken : TakenBack p.components marks := by
    have components : p.components = [.parent, .name (name "a"), .name (name "b"),
        .name (name "c"), .parent, .parent, .name (name "d")] := by decide +kernel
    rw [components]
    exact folded _ _ _ _
  have absolute : p.isAbsolute = true := by decide
  have absolute' : other.isAbsolute = true := by decide
  have components : p.components = other.components := by decide +kernel
  have slashed : up.normalize.bytes.getLast? = some slash := by decide +kernel
  obtain ⟨-, -, -, -, -, -, remain, same⟩ := normalize_is_canonical p
  exact ⟨taken, (remain marks taken).2, absolute, absolute', components,
    same other absolute absolute' components, slashed, (normalize_is_canonical up).2.2.1 slashed⟩

end ThemedShell.Path
