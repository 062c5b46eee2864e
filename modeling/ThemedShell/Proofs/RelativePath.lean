import Mathlib.Data.List.DropRight
import Mathlib.Data.List.TakeDrop
import ThemedShell.Proofs.CanonicalPath
import ThemedShell.Proofs.HomePath

/-!
# Relative paths

Pairs of dots for which a relative path has no name of its own lead out of the path that it is joined
to (`normalNames_append_climb`). Normalizing the relative path by itself treats them as if it began at
the root and forgets them; what it leads to is the same only if there are none, or if there is
nothing to be led out of (`dots_that_lead_out_are_forgotten`).
-/
namespace ThemedShell.Path

/-! ## Leading out -/

/-- How far components lead above the place where they begin. -/
def climb : List Component → Nat
  | [] => 0
  | .parent :: rest => climb rest + 1
  | .name _ :: rest => climb rest - 1

/-- Every start of the components has at least as many names as pairs of dots. -/
def StaysBelow (components : List Component) : Prop :=
  ∀ start, start <+: components →
    start.count .parent ≤ (start.filterMap Component.name?).length

/-- A property of all starts, those that are not empty by what they go on with. -/
theorem forall_prefix_cons {component : Component} {rest : List Component}
    {P : List Component → Prop} :
    (∀ start, start <+: component :: rest → P start) ↔
      P [] ∧ ∀ start, start <+: rest → P (component :: start) := by
  simp only [List.prefix_cons_iff]
  constructor
  · exact fun h => ⟨h [] (.inl rfl), fun start hstart => h _ (.inr ⟨start, rfl, hstart⟩)⟩
  · rintro ⟨empty, others⟩ start (rfl | ⟨start, rfl, hstart⟩)
    · exact empty
    · exact others start hstart

theorem climb_le_iff {components : List Component} {k : Nat} :
    climb components ≤ k ↔ ∀ start, start <+: components →
      start.count .parent ≤ (start.filterMap Component.name?).length + k := by
  induction components generalizing k with
  | nil => simp [climb]
  | cons component rest ih =>
    rw [forall_prefix_cons]
    cases component with
    | name name =>
      have further : climb (.name name :: rest) ≤ k ↔ climb rest ≤ k + 1 := by
        rw [climb]
        omega
      rw [further, ih]
      simp [Component.name?, Nat.add_assoc, Nat.add_comm 1]
    | parent =>
      rw [climb]
      simp only [List.count_nil, List.count_cons_self, List.filterMap_cons, Component.name?,
        List.filterMap_nil, Nat.zero_le, true_and]
      cases k with
      | zero =>
        -- The pair of dots is a start by itself.
        refine iff_of_false (Nat.not_succ_le_zero _) fun h => ?_
        exact Nat.not_succ_le_zero _ (h [] List.nil_prefix)
      | succ k => simp only [Nat.add_le_add_iff_right, ih, ← Nat.add_assoc]

theorem climb_eq_zero_iff {components : List Component} :
    climb components = 0 ↔ StaysBelow components := by
  rw [← Nat.le_zero, climb_le_iff]
  rfl

/-! ## What is led out of -/

/-- Components go on from the names above them, but for those that they lead out of. -/
theorem foldl_stepNames_above (components : List Component) (names : List FileName) :
    components.foldl stepNames names =
      components.foldl stepNames [] ++ names.drop (climb components) := by
  induction components generalizing names with
  | nil => simp [climb]
  | cons component rest ih =>
    cases component with
    | parent =>
      calc rest.foldl stepNames names.tail
        _ = rest.foldl stepNames [] ++ names.tail.drop (climb rest) := ih names.tail
        _ = rest.foldl stepNames [] ++ names.drop (climb rest + 1) := by rw [List.drop_tail]
    | name name =>
      calc rest.foldl stepNames (name :: names)
        _ = rest.foldl stepNames [] ++ (name :: names).drop (climb rest) := ih _
        _ = rest.foldl stepNames [] ++ [name].drop (climb rest) ++ names.drop (climb rest - 1) := by
          cases climb rest <;> simp
        _ = rest.foldl stepNames [name] ++ names.drop (climb rest - 1) := by rw [ih [name]]

/-- **Leading out.** -/
theorem normalNames_append_climb (components more : List Component) :
    normalNames (components ++ more) =
      (normalNames components).rdrop (climb more) ++ normalNames more := by
  simp only [normalNames, List.foldl_append, foldl_stepNames_above more (components.foldl _ _),
    List.reverse_append, List.rdrop_eq_reverse_drop_reverse, List.reverse_reverse]

/-! ## Joined paths -/

theorem ofNames_inj {names other : List FileName} (h : ∀ name ∈ names, IsName name)
    (h' : ∀ name ∈ other, IsName name) (absolute : Bool) :
    ofNames absolute names = ofNames absolute other ↔ names = other :=
  ⟨fun same => by rw [← pieces_ofNames h absolute, same, pieces_ofNames h'], fun same => by rw [same]⟩

theorem rdrop_eq_self {names : List FileName} {k : Nat} :
    names.rdrop k = names ↔ k = 0 ∨ names = [] := by
  rw [List.rdrop, List.take_eq_self_iff, ← List.length_eq_zero_iff]
  omega

/-- **Dots that lead out are forgotten.** Joined to an absolute path, a relative path leads out of as
many names as it has pairs of dots without a name of its own. Joined once it is normalized, it leads
out of none. So the two lead to the same only if the path has a name for each of its pairs of dots or
there is no name to be led out of. -/
theorem dots_that_lead_out_are_forgotten (base p : Path) (absolute : base.isAbsolute = true)
    (relative : p.isAbsolute = false) :
    let names := normalNames base.components
    let own := normalNames p.components
    (base.join p).normalize = ofNames true (names.rdrop (climb p.components) ++ own) ∧
      (base.join p.normalize).normalize = ofNames true (names ++ own) ∧
      ((base.join p.normalize).normalize = (base.join p).normalize ↔
        StaysBelow p.components ∨ base.normalize = root) := by
  intro names own
  have isName : ∀ name ∈ names, IsName name := fun _ => isName_of_mem_normalNames
  have isName' : ∀ name ∈ own, IsName name := fun _ => isName_of_mem_normalNames
  have joined : (base.join p).normalize = ofNames true (names.rdrop (climb p.components) ++ own) := by
    rw [normalize, isAbsolute_join_of_relative relative, absolute, components_join relative,
      normalNames_append_climb]
  have normalized : (base.join p.normalize).normalize = ofNames true (names ++ own) := by
    have relative' : p.normalize.isAbsolute = false := by rw [isAbsolute_normalize, relative]
    rw [normalize, isAbsolute_join_of_relative relative', absolute, components_join relative',
      components_normalize, normalNames_append_names]
  refine ⟨joined, normalized, ?_⟩
  have atRoot : base.normalize = root ↔ names = [] := by
    rw [normalize, absolute]
    exact ofNames_inj isName (List.forall_mem_nil _) true
  rw [joined, normalized, ofNames_inj, List.append_cancel_right_eq, eq_comm, rdrop_eq_self,
    climb_eq_zero_iff, atRoot]
  · exact fun name hname => (List.mem_append.1 hname).elim (isName name) (isName' name)
  · exact fun name hname => (List.mem_append.1 hname).elim
      (fun h => isName name (List.mem_of_mem_take h)) (isName' name)

/-- Two names down and three up lead out of one directory. -/
theorem led_out_of_data :
    let base := ofString "/srv/data"
    let p := ofString "logs/old/../../../www"
    base.isAbsolute = true ∧ p.isAbsolute = false ∧
      (base.join p).normalize = ofString "/srv/www" ∧
      (base.join p.normalize).normalize = ofString "/srv/data/www" ∧
      ¬ StaysBelow p.components ∧ base.normalize ≠ root := by
  intro base p
  have absolute : base.isAbsolute = true := by decide
  have relative : p.isAbsolute = false := by decide
  obtain ⟨joined, normalized, same⟩ := dots_that_lead_out_are_forgotten base p absolute relative
  have out : (base.join p).normalize = ofString "/srv/www" := joined.trans (by decide +kernel)
  have kept : (base.join p.normalize).normalize = ofString "/srv/data/www" :=
    normalized.trans (by decide +kernel)
  rw [out, kept] at same
  have different := same.not.1 (by decide)
  exact ⟨absolute, relative, out, kept, fun h => different (.inl h), fun h => different (.inr h)⟩

/-- Normalized by itself, a path to a sibling leads to a child. -/
theorem sibling_becomes_child :
    let base := ofString "/srv"
    let p := ofString "../a"
    base.isAbsolute = true ∧ p.isAbsolute = false ∧ p.normalize = ofString "a" ∧
      (base.join p.normalize).normalize = ofString "/srv/a" ∧
      (base.join p).normalize = ofString "/a" ∧
      (base.join p.normalize).normalize ≠ (base.join p).normalize := by
  decide +kernel

end ThemedShell.Path
