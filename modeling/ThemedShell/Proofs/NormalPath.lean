import ThemedShell.Path.Home

/-!
# Normal paths

A path is normal if its text is a slash, or a slash followed by names with slashes between them,
none of which is empty, a dot or two dots. Normalizing an absolute path gives a normal one, and so
does resolving what a user writes, whatever the home directory.
-/
namespace ThemedShell.Path

/-- What can stand between two slashes of a normal path. -/
structure IsName (name : FileName) : Prop where
  ne_nil : name ≠ []
  ne_dot : name ≠ [dot]
  ne_dots : name ≠ [dot, dot]
  no_slash : slash ∉ name

/-- The path is absolute, and its text has neither dots nor repeated or trailing slashes. -/
def IsNormal (p : Path) : Prop :=
  ∃ names : List FileName, (∀ name ∈ names, IsName name) ∧
    p.bytes = slash :: [slash].intercalate names

theorem IsNormal.isAbsolute {p : Path} (h : p.IsNormal) : p.isAbsolute = true := by
  obtain ⟨names, -, hbytes⟩ := h
  simp [Path.isAbsolute, hbytes]

/-! ## Components -/

/-- No piece holds what the pieces have been split at. -/
theorem not_mem_of_mem_splitOn {x : UInt8} :
    ∀ (bytes piece : Text.Octets), piece ∈ bytes.splitOn x → x ∉ piece
  | [], piece, h => by simp_all
  | b :: bytes, piece, h => by
    rw [List.splitOn_cons_eq_if_modifyHead] at h
    have ih := not_mem_of_mem_splitOn (x := x) bytes
    split at h
    · rcases List.mem_cons.1 h with rfl | h
      · simp
      · exact ih piece h
    · next hb =>
      -- The first piece begins with `b`, which is not `x`; the others are pieces of the rest.
      cases hs : bytes.splitOn x with
      | nil => simp [hs] at h
      | cons first rest =>
        rw [hs, List.modifyHead_cons] at h
        rcases List.mem_cons.1 h with rfl | h
        · have hne : x ≠ b := fun e => hb (by simp [e])
          simpa [hne] using ih first (by simp [hs])
        · exact ih piece (by simp [hs, h])

theorem isName_of_mem_components {p : Path} {name : FileName}
    (h : Component.name name ∈ p.components) : IsName name := by
  obtain ⟨piece, hpiece, hname⟩ := List.mem_filterMap.1 h
  unfold Component.ofPiece at hname
  split at hname
  · simp at hname
  · next hdot =>
    split at hname
    · simp at hname
    · next hdots =>
      simp only [Option.some.injEq, Component.name.injEq] at hname
      subst hname
      exact ⟨fun e => hdot (.inl e), fun e => hdot (.inr e), hdots,
        not_mem_of_mem_splitOn _ _ hpiece⟩

/-- Each step keeps names, drops one or adds the component's own. -/
theorem mem_foldl_stepNames {name : FileName} :
    ∀ (components : List Component) {names : List FileName},
      name ∈ components.foldl stepNames names → name ∈ names ∨ Component.name name ∈ components
  | [], _, h => .inl h
  | .parent :: components, names, h => by
    rcases mem_foldl_stepNames components h with h | h
    · exact .inl (List.mem_of_mem_tail h)
    · exact .inr (List.mem_cons_of_mem _ h)
  | .name other :: components, names, h => by
    rcases mem_foldl_stepNames components h with h | h
    · rcases List.mem_cons.1 h with rfl | h
      · exact .inr (by simp)
      · exact .inl h
    · exact .inr (List.mem_cons_of_mem _ h)

theorem mem_normalNames {components : List Component} {name : FileName}
    (h : name ∈ normalNames components) : Component.name name ∈ components := by
  simpa using mem_foldl_stepNames components (List.mem_reverse.1 h)

/-! ## Normal form -/

theorem isNormal_normalize {p : Path} (h : p.isAbsolute = true) : p.normalize.IsNormal :=
  ⟨normalNames p.components, fun _ hname => isName_of_mem_components (mem_normalNames hname),
    by simp [normalize, ofNames, h]⟩

theorem bytes_of_isAbsolute {p : Path} (h : p.isAbsolute = true) :
    ∃ rest, p.bytes = slash :: rest := by
  simpa [Path.isAbsolute, List.head?_eq_some_iff] using h

theorem isAbsolute_join {p : Path} (h : p.isAbsolute = true) (other : Path) :
    (p.join other).isAbsolute = true := by
  obtain ⟨rest, hbytes⟩ := bytes_of_isAbsolute h
  unfold join
  split
  · assumption
  · split <;> simp [Path.isAbsolute, hbytes]

/-- What a user writes is resolved to a normal path, whatever stands for the home directory. -/
theorem isNormal_resolve {home : Option Path} {base target : Path} {s : String}
    (h : base.isAbsolute = true) (resolved : resolve home base s = some target) :
    target.IsNormal := by
  obtain ⟨p, -, rfl⟩ := Option.map_eq_some_iff.1 resolved
  exact isNormal_normalize (isAbsolute_join h p)

end ThemedShell.Path
