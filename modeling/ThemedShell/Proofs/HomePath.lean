import ThemedShell.Proofs.Resolution

/-!
# Arguments below the home directory

What stands behind a tilde and a slash is joined to the home directory. Unless it begins with a slash
itself, it is read from there, and only pairs of dots of its own lead out again
(`home_argument_is_read_from_home`). A second slash makes it absolute, and then the home directory is
forgotten (`second_slash_forgets_home`).
-/
namespace ThemedShell.Path

/-! ## Texts that begin with a slash -/

/-- Only a slash is encoded as something that begins with a slash. -/
theorem head?_utf8EncodeChar {c : Char} :
    (String.utf8EncodeChar c).head? = some slash ↔ c = '/' := by
  constructor
  · intro first
    have byte : ∀ n, some (UInt8.ofNat n) = some slash → n % 256 = 47 := fun n h => by
      simpa [slash] using congrArg UInt8.toNat (Option.some.inj h)
    have value : c.val.toNat = 47 := by
      rw [String.utf8EncodeChar] at first
      -- The first byte of a longer code is 192 or more.
      split at first
      · have := byte _ first
        omega
      · split at first
        · have := byte _ first
          omega
        · split at first
          all_goals
            have := byte _ first
            omega
    exact Char.ext (UInt32.toNat_inj.1 value)
  · rintro rfl
    decide

theorem isAbsolute_ofString {s : String} :
    (ofString s).isAbsolute = true ↔ s.toList.head? = some '/' := by
  cases hs : s.toList with
  | nil => simp [isAbsolute, ofString, Text.encode, hs]
  | cons c rest =>
    have first : (ofString s).bytes.head? = (String.utf8EncodeChar c).head? := by
      rw [ofString, Text.encode, hs, List.flatMap_cons,
        List.head?_append_of_ne_nil _ String.utf8EncodeChar_ne_nil]
    simp [isAbsolute, first, head?_utf8EncodeChar]

/-! ## Home paths -/

/-- What stands behind the tilde and the slash is joined to the home directory. -/
theorem resolve_home {home : Path} (absolute : home.isAbsolute = true) (base : Path)
    (rest : String) :
    resolve (some home) base ("~/" ++ rest) = some (home.join (ofString rest)).normalize := by
  have behind : homeRest? ("~/" ++ rest).toList = some rest.toList := by
    simp [homeRest?]
  cases hrest : rest.toList with
  | nil =>
    obtain rfl : rest = "" := String.toList_eq_nil_iff.1 hrest
    have expanded : expand (some home) ("~/" ++ "") = some home := rfl
    rw [resolve, expanded, Option.map_some, join_of_isAbsolute absolute,
      normalize_join_of_components_eq_nil (by decide) (by decide)]
  | cons c cs =>
    have expanded : expand (some home) ("~/" ++ rest) = some (home.join (ofString rest)) := by
      have whole : String.ofList (c :: cs) = rest := by rw [← hrest, String.ofList_toList]
      rw [expand, behind, hrest]
      simp only [Option.map_some, whole]
    rw [resolve, expanded, Option.map_some, join_of_isAbsolute (isAbsolute_join absolute _)]

/-- Components without pairs of dots are names. -/
theorem exists_names {components : List Component} (h : .parent ∉ components) :
    ∃ names : List FileName, components = names.map .name := by
  induction components with
  | nil => exact ⟨[], rfl⟩
  | cons component rest ih =>
    obtain ⟨names, rfl⟩ := ih fun hmem => h (List.mem_cons_of_mem _ hmem)
    cases component with
    | parent => exact absurd List.mem_cons_self h
    | name name => exact ⟨name :: names, rfl⟩

/-- **Below the home directory.** For an absolute home directory, what stands behind a tilde and a
slash is read as if it were written behind the home directory and a slash, provided that it does not
begin with a slash. Without pairs of dots in it, it goes on from the home directory. If it begins with
a slash, it is read from the root, whatever the home directory. -/
theorem home_argument_is_read_from_home (base home : Path) (absolute : home.isAbsolute = true)
    (rest : String) :
    ∃ target, resolve (some home) base ("~/" ++ rest) = some target ∧
      (rest.toList.head? ≠ some '/' →
        target = normalize ⟨home.bytes ++ slash :: (ofString rest).bytes⟩ ∧
        (.parent ∉ (ofString rest).components →
          target.components = home.normalize.components ++ (ofString rest).components)) ∧
      (rest.toList.head? = some '/' → target = (ofString rest).normalize) := by
  refine ⟨_, resolve_home absolute base rest, fun first => ?below, fun first => ?fromRoot⟩
  case below =>
    have relative : (ofString rest).isAbsolute = false := by
      simpa using isAbsolute_ofString.not.2 first
    have start : home.bytes ≠ [] := by
      obtain ⟨bytes, hbytes⟩ := bytes_of_isAbsolute absolute
      simp [hbytes]
    refine ⟨(normalize_slash relative start).symm, fun down => ?_⟩
    obtain ⟨names, hnames⟩ := exists_names down
    rw [components_normalize, components_join relative, hnames, normalNames_append_names,
      List.map_append, ← components_normalize]
  case fromRoot => rw [join_of_isAbsolute (isAbsolute_ofString.2 first)]

/-- From a home directory with a slash at its end, and out of it again. -/
theorem argument_is_read_from_ada :
    (ofString "/home/ada/").isAbsolute = true ∧
      resolve (some (ofString "/home/ada/")) (ofString "/srv") ("~/" ++ "docs/.././/..") =
        some (ofString "/home") := by
  have absolute : (ofString "/home/ada/").isAbsolute = true := by decide
  obtain ⟨target, resolved, below, -⟩ :=
    home_argument_is_read_from_home (ofString "/srv") (ofString "/home/ada/") absolute
      "docs/.././/.."
  have first : "docs/.././/..".toList.head? ≠ some '/' := by decide
  have down : target = ofString "/home" := (below first).1.trans (by decide +kernel)
  exact ⟨absolute, down ▸ resolved⟩

/-- A second slash behind the tilde leads away from the home directory. -/
theorem second_slash_forgets_home :
    let home := ofString "/home/ada"
    home.isAbsolute = true ∧
      resolve (some home) (ofString "/srv/data") ("~/" ++ "/etc") = some (ofString "/etc") ∧
      normalize ⟨home.bytes ++ slash :: (ofString "/etc").bytes⟩ = ofString "/home/ada/etc" ∧
      resolve (some home) (ofString "/srv/data") ("~/" ++ "/etc") ≠
        some (normalize ⟨home.bytes ++ slash :: (ofString "/etc").bytes⟩) := by
  decide +kernel

end ThemedShell.Path
