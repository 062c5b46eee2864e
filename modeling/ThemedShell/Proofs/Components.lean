import Mathlib.Data.List.Basic
import ThemedShell.Proofs.NormalPath

/-!
# Components of joined paths

The components of a path are what its pieces mean, those before a slash followed by those behind it.
So joining adds components, and a path through names has just these names as components. Normalizing
may therefore be done in stages: what has been normalized already can be built upon
(`normalize_join_normalize`).
-/
namespace ThemedShell.Path

open Text (Octets)

/-! ## Pieces -/

/-- What stands between the slashes of a path. -/
def pieces (p : Path) : List Octets := (p.bytes.splitOn slash).filter (· ≠ [])

theorem ne_nil_of_mem_pieces {p : Path} {piece : Octets} (h : piece ∈ p.pieces) : piece ≠ [] := by
  simpa using (List.mem_filter.1 h).2

theorem components_eq (p : Path) : p.components = p.pieces.filterMap Component.ofPiece := by
  rw [components, pieces, List.filterMap_filter]
  congr 1
  funext piece
  by_cases h : piece = [] <;> simp [h, Component.ofPiece]

def Component.name? : Component → Option FileName
  | .parent => none
  | .name entry => some entry

/-- The names among the components are the pieces that are not dots. -/
theorem filterMap_name?_components (p : Path) :
    p.components.filterMap Component.name? =
      p.pieces.filter fun piece => piece ≠ [dot] ∧ piece ≠ [dot, dot] := by
  rw [components_eq, List.filterMap_filterMap, ← List.filterMap_eq_filter]
  refine List.filterMap_congr fun piece hpiece => ?_
  by_cases one : piece = [dot] <;> by_cases two : piece = [dot, dot] <;>
    simp [Component.ofPiece, Component.name?, Option.guard, ne_nil_of_mem_pieces hpiece, one, two]

/-! ## Slashes -/

theorem pieces_slash (first rest : Octets) :
    pieces ⟨first ++ slash :: rest⟩ = pieces ⟨first⟩ ++ pieces ⟨rest⟩ := by
  simp only [pieces, List.splitOn_append_cons_self, List.filter_append]

theorem components_slash (first rest : Octets) :
    components ⟨first ++ slash :: rest⟩ = components ⟨first⟩ ++ components ⟨rest⟩ := by
  simp only [components_eq, pieces_slash, List.filterMap_append]

/-- No separator is due after nothing and after a slash. -/
theorem needsSlash_eq_false {p : Path} (h : p.needsSlash = false) :
    p.bytes = [] ∨ ∃ first, p.bytes = first ++ [slash] := by
  cases hlast : p.bytes.getLast? with
  | none => exact .inl (List.getLast?_eq_none_iff.1 hlast)
  | some b =>
    obtain ⟨first, hfirst⟩ := List.getLast?_eq_some_iff.1 hlast
    have : b = slash := by simpa [needsSlash, hlast] using h
    exact .inr ⟨first, by rw [hfirst, this]⟩

theorem join_of_isAbsolute {other : Path} (h : other.isAbsolute = true) (p : Path) :
    p.join other = other := by
  rw [join, if_pos h]

/-- A relative path is written behind the other, with a slash if one is due. -/
theorem join_of_relative {other : Path} (h : other.isAbsolute = false) (p : Path) :
    p.join other =
      ⟨p.bytes ++ (if p.needsSlash then [slash] else []) ++ other.bytes⟩ := by
  rw [join, if_neg (by simp [h])]
  split <;> simp

/-- Joining a relative path adds its components. -/
theorem components_join {other : Path} (h : other.isAbsolute = false) (p : Path) :
    (p.join other).components = p.components ++ other.components := by
  rw [join_of_relative h]
  by_cases due : p.needsSlash = true
  · simpa [due] using components_slash p.bytes other.bytes
  · rcases needsSlash_eq_false (by simpa using due) with hp | ⟨first, hp⟩
    · have none : p.components = [] := by simp [components, hp, Component.ofPiece]
      simp [due, hp, none]
    · -- The slash at the end of `p` is the one that separates the two.
      have hfirst : p.components = components ⟨first⟩ := by
        have := components_slash first []
        rw [← hp] at this
        simpa [components, Component.ofPiece] using this
      simpa [due, hp, hfirst] using components_slash first other.bytes

theorem isAbsolute_join_of_relative {other : Path} (h : other.isAbsolute = false) (p : Path) :
    (p.join other).isAbsolute = p.isAbsolute := by
  rw [join_of_relative h]
  cases hp : p.bytes with
  | nil => simpa [isAbsolute, needsSlash, hp] using h
  | cons b rest => simp [isAbsolute, hp]

/-! ## Names -/

theorem ofPiece_of_isName {name : FileName} (h : IsName name) :
    Component.ofPiece name = some (.name name) := by
  simp [Component.ofPiece, h.ne_nil, h.ne_dot, h.ne_dots]

/-- A path through names has these names as pieces. -/
theorem pieces_ofNames {names : List FileName} (h : ∀ name ∈ names, IsName name)
    (absolute : Bool) : (ofNames absolute names).pieces = names := by
  have through : pieces ⟨[slash].intercalate names⟩ = names := by
    cases names with
    | nil => rfl
    | cons first rest =>
      rw [pieces, List.splitOn_intercalate slash (fun name hname => (h name hname).no_slash)
        (List.cons_ne_nil first rest), List.filter_eq_self]
      exact fun name hname => by simpa using (h name hname).ne_nil
  cases absolute with
  | false => exact through
  | true =>
    have := pieces_slash [] ([slash].intercalate names)
    rw [through] at this
    exact this

theorem components_ofNames {names : List FileName} (h : ∀ name ∈ names, IsName name)
    (absolute : Bool) : (ofNames absolute names).components = names.map .name := by
  rw [components_eq, pieces_ofNames h, List.filterMap_eq_map_iff_forall_eq_some]
  exact fun name hname => ofPiece_of_isName (h name hname)

theorem isName_of_mem_normalNames {p : Path} {name : FileName}
    (h : name ∈ normalNames p.components) : IsName name :=
  isName_of_mem_components (mem_normalNames h)

/-- The components of a normalized path are the names that remain. -/
theorem components_normalize (p : Path) :
    p.normalize.components = (normalNames p.components).map .name :=
  components_ofNames (fun _ hname => isName_of_mem_normalNames hname) p.isAbsolute

theorem isAbsolute_of_isName {name : FileName} (h : IsName name) :
    isAbsolute ⟨name⟩ = false := by
  obtain ⟨b, rest, rfl⟩ := List.exists_cons_of_ne_nil h.ne_nil
  have : b ≠ slash := fun e => h.no_slash (by simp [e])
  simpa [isAbsolute] using this

theorem isAbsolute_normalize (p : Path) : p.normalize.isAbsolute = p.isAbsolute := by
  cases hp : p.isAbsolute with
  | true => exact (isNormal_normalize hp).isAbsolute
  | false =>
    -- A relative path begins with its first name.
    rw [normalize, ofNames, hp]
    cases hnames : normalNames p.components with
    | nil => rfl
    | cons first rest =>
      have hfirst : IsName first := isName_of_mem_normalNames (p := p) (by simp [hnames])
      have relative := isAbsolute_of_isName hfirst
      obtain ⟨b, name, rfl⟩ := List.exists_cons_of_ne_nil hfirst.ne_nil
      cases rest <;> simpa [isAbsolute, List.intercalate] using relative

/-! ## Normalizing in stages -/

theorem foldl_stepNames_names (names : List FileName) :
    ∀ above : List FileName,
      (names.map .name).foldl stepNames above = names.reverse ++ above := by
  induction names with
  | nil => simp
  | cons name names ih => simp [stepNames, ih]

/-- As long as nothing leads up, all names are gone on with. -/
theorem normalNames_append_names (components : List Component) (names : List FileName) :
    normalNames (components ++ names.map .name) = normalNames components ++ names := by
  simp only [normalNames, List.foldl_append, foldl_stepNames_names, List.reverse_append,
    List.reverse_reverse]

theorem normalNames_names (names : List FileName) : normalNames (names.map .name) = names :=
  normalNames_append_names [] names

/-- The names that remain may stand for what they remain of. -/
theorem normalNames_append (components more : List Component) :
    normalNames ((normalNames components).map .name ++ more) =
      normalNames (components ++ more) := by
  simp only [normalNames, List.foldl_append, foldl_stepNames_names, List.reverse_reverse,
    List.append_nil]

/-- A normal path is its own normal form. -/
theorem IsNormal.normalize_eq {p : Path} (h : p.IsNormal) : p.normalize = p := by
  obtain ⟨names, isName, hbytes⟩ := h
  have through : p = ofNames true names := by
    obtain ⟨bytes⟩ := p
    simpa [ofNames] using hbytes
  rw [through, normalize, components_ofNames isName, normalNames_names]
  rfl

theorem normalize_congr {p other : Path} (absolute : p.isAbsolute = other.isAbsolute)
    (names : normalNames p.components = normalNames other.components) :
    p.normalize = other.normalize := by
  rw [normalize, normalize, absolute, names]

/-- **Normalizing in stages.** It makes no difference whether a path has been normalized before
another one is joined to it. -/
theorem normalize_join_normalize (p other : Path) :
    (p.normalize.join other).normalize = (p.join other).normalize := by
  cases h : other.isAbsolute with
  | true => rw [join_of_isAbsolute h, join_of_isAbsolute h]
  | false =>
    apply normalize_congr
    · rw [isAbsolute_join_of_relative h, isAbsolute_join_of_relative h, isAbsolute_normalize]
    · rw [components_join h, components_join h, components_normalize, normalNames_append]

/-- What has no components leads nowhere else. -/
theorem normalize_join_of_components_eq_nil {other : Path} (relative : other.isAbsolute = false)
    (nothing : other.components = []) (p : Path) : (p.join other).normalize = p.normalize := by
  apply normalize_congr
  · rw [isAbsolute_join_of_relative relative]
  · rw [components_join relative, nothing, List.append_nil]

theorem normalize_join_dot (p : Path) : (p.join (ofString ".")).normalize = p.normalize :=
  normalize_join_of_components_eq_nil (by decide) (by decide) p

/-! ## What normalizing leaves -/

/-- The names down to a place stand, in their order, among all names on the way there. -/
theorem foldl_stepNames_sublist :
    ∀ (components : List Component) (above : List FileName),
      ((components.foldl stepNames above).reverse).Sublist
        (above.reverse ++ components.filterMap Component.name?)
  | [], above => by simp
  | .parent :: rest, above =>
    (foldl_stepNames_sublist rest above.tail).trans (above.tail_sublist.reverse.append_right _)
  | .name name :: rest, above => by
    simpa [stepNames, Component.name?] using foldl_stepNames_sublist rest (name :: above)

theorem normalNames_sublist_names (components : List Component) :
    (normalNames components).Sublist (components.filterMap Component.name?) :=
  foldl_stepNames_sublist components []

theorem normalNames_sublist (p : Path) : (normalNames p.components).Sublist p.pieces := by
  refine (normalNames_sublist_names p.components).trans ?_
  rw [filterMap_name?_components]
  exact List.filter_sublist

theorem intercalate_sublist {names more : List Octets} (h : names.Sublist more)
    (separator : Octets) :
    (separator.intercalate names).Sublist (separator.intercalate more) := by
  induction h with
  | slnil => exact List.Sublist.refl _
  | @cons names more piece h ih =>
    cases more with
    | nil => simp [List.eq_nil_of_sublist_nil h]
    | cons next rest =>
      rw [List.intercalate_cons_cons]
      exact ih.trans (List.sublist_append_right _ _)
  | @cons_cons names more piece h ih =>
    cases names with
    | nil =>
      cases more with
      | nil => exact List.Sublist.refl _
      | cons next rest =>
        rw [List.intercalate_cons_cons, List.intercalate_singleton, List.append_assoc]
        exact List.sublist_append_left _ _
    | cons first others =>
      cases more with
      | nil => cases h
      | cons next rest =>
        rw [List.intercalate_cons_cons, List.intercalate_cons_cons]
        exact ih.append_left _

/-- Normalizing an absolute path leaves out bytes and adds none. -/
theorem bytes_normalize_sublist {p : Path} (h : p.isAbsolute = true) :
    p.normalize.bytes.Sublist p.bytes := by
  obtain ⟨rest, hbytes⟩ := bytes_of_isAbsolute h
  have pieces_eq : p.pieces = pieces ⟨rest⟩ := by
    obtain ⟨bytes⟩ := p
    subst hbytes
    exact pieces_slash [] rest
  have names : (normalNames p.components).Sublist (rest.splitOn slash) := by
    refine (normalNames_sublist p).trans ?_
    rw [pieces_eq]
    exact List.filter_sublist
  have := intercalate_sublist names [slash]
  rw [List.intercalate_splitOn] at this
  rw [normalize, ofNames, if_pos h, hbytes]
  exact this.cons_cons slash

end ThemedShell.Path
