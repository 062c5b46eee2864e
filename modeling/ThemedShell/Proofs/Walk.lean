import ThemedShell.FileTree.Directory
import ThemedShell.Proofs.Components
import ThemedShell.Proofs.Tree

/-!
# Walks by name

`reach?` walks a path from the root of a tree, one piece between slashes after the other, and
follows no links. Where it ends is settled by the text of the path, if it ends at all; so the
normal form of a path, too, leads to that place (`reach?_normalize`). In a tree without links this
is the walk that the machine makes (`locate_eq_ok`), for paths that are not too long.
-/
namespace ThemedShell.FileTree

open Text (Octets)

/-- A slash at the end is one more step. -/
theorem steps_eq (path : Path) :
    steps path =
      path.pieces ++ if path.bytes.getLast? = some Path.slash then [oneDot] else [] := by
  simp only [steps, Path.pieces]
  split <;> simp

/-! ## Walking -/

namespace Node

variable {root : Node} {here there : List FileName} {piece : Octets}

/-- One step of a walk, from a directory: a dot stays, two dots go up, where the root is above itself,
and a name goes down to what is called so. `here` is given from the place up to the root. -/
def step? (root : Node) (here : List FileName) (piece : Octets) : Option (List FileName) :=
  if root.hasDirectory here.reverse then
    if piece = oneDot then some here
    else if piece = twoDots then some here.tail
    else if (root.at? (piece :: here).reverse).isSome then some (piece :: here)
    else none
  else none

/-- Where a path leads from the root of a tree, if all that is stepped from are directories. -/
def reach? (root : Node) (path : Path) : Option Location :=
  (path.pieces.foldlM root.step? []).map List.reverse

theorem stepNames_of_step? (h : root.step? here piece = some there) (hpiece : piece ≠ []) :
    there = (Path.Component.ofPiece piece).elim here (Path.stepNames here) := by
  unfold step? at h
  unfold Path.Component.ofPiece
  split at h
  · split at h
    · next hdot => simp_all [oneDot]
    · next hdot =>
      split at h
      · next hdots => simp_all [twoDots, oneDot, Path.stepNames]
      · next hdots =>
        split at h
        · simp_all [twoDots, oneDot, Path.stepNames]
        · cases h
  · cases h

theorem hasDirectory_of_step? (h : root.step? here piece = some there) :
    root.hasDirectory here.reverse = true := by
  unfold step? at h
  split at h
  · assumption
  · cases h

theorem isSome_of_step? (h : root.step? here piece = some there)
    (hhere : (root.at? here.reverse).isSome = true) : (root.at? there.reverse).isSome = true := by
  unfold step? at h
  split at h
  · split at h
    · rwa [← Option.some.inj h]
    · split at h
      · rw [← Option.some.inj h]
        cases here with
        | nil => exact hhere
        | cons name above =>
          rw [List.reverse_cons] at hhere
          exact isSome_of_hasDirectory (hasDirectory_of_append hhere)
      · split at h
        · next found => rwa [← Option.some.inj h]
        · cases h
  · cases h

/-- Where a walk ends is settled by the names and dots it goes through. -/
theorem stepNames_of_foldlM :
    ∀ {pieces : List Octets} {here there : List FileName}, (∀ piece ∈ pieces, piece ≠ []) →
      pieces.foldlM root.step? here = some there →
      there = (pieces.filterMap Path.Component.ofPiece).foldl Path.stepNames here
  | [], here, there, _, h => (Option.some.inj h).symm
  | piece :: pieces, here, there, hne, h => by
    rw [List.foldlM_cons] at h
    obtain ⟨next, hnext, h⟩ := Option.bind_eq_some_iff.1 h
    have ih := stepNames_of_foldlM (fun p hp => hne p (by simp [hp])) h
    rw [ih, stepNames_of_step? hnext (hne piece (by simp))]
    cases hc : Path.Component.ofPiece piece <;> simp [hc]

/-- A walk leads from something to something. -/
theorem isSome_of_foldlM :
    ∀ {pieces : List Octets} {here there : List FileName},
      pieces.foldlM root.step? here = some there →
      (root.at? here.reverse).isSome = true → (root.at? there.reverse).isSome = true
  | [], _, _, h, hhere => Option.some.inj h ▸ hhere
  | _ :: _, _, _, h, hhere => by
    rw [List.foldlM_cons] at h
    obtain ⟨next, hnext, h⟩ := Option.bind_eq_some_iff.1 h
    exact isSome_of_foldlM h (isSome_of_step? hnext hhere)

/-- A walk through names alone goes down to what is there. -/
theorem foldlM_names :
    ∀ {names here : List FileName}, (∀ name ∈ names, Path.IsName name) →
      (root.at? (here.reverse ++ names)).isSome = true →
      names.foldlM root.step? here = some (names.reverse ++ here)
  | [], _, _, _ => rfl
  | name :: names, here, isName, there => by
    have hname := isName name (by simp)
    have parent : root.hasDirectory here.reverse = true := hasDirectory_of_append there
    have below : (root.at? ((name :: here).reverse ++ names)).isSome = true := by simpa using there
    have found : (root.at? (name :: here).reverse).isSome = true := by
      cases names with
      | nil => simpa using below
      | cons next rest => exact isSome_of_hasDirectory (hasDirectory_of_append below)
    have step : root.step? here name = some (name :: here) := by
      simp only [step?, parent, found, oneDot, twoDots, hname.ne_dot, hname.ne_dots, if_true,
        if_false]
    rw [List.foldlM_cons, step]
    refine (foldlM_names (fun n hn => isName n (by simp [hn])) below).trans ?_
    simp

/-! ## Walking along normal forms -/

variable {path : Path} {location : Location}

theorem eq_of_reach? (h : root.reach? path = some location) :
    location = Path.normalNames path.components := by
  obtain ⟨there, hthere, rfl⟩ := Option.map_eq_some_iff.1 h
  rw [Path.normalNames, Path.components_eq]
  exact congrArg List.reverse (stepNames_of_foldlM (fun _ => Path.ne_nil_of_mem_pieces) hthere)

theorem isSome_of_reach? (h : root.reach? path = some location) :
    (root.at? location).isSome = true := by
  obtain ⟨there, hthere, rfl⟩ := Option.map_eq_some_iff.1 h
  exact isSome_of_foldlM hthere (by simp [at?_nil])

theorem reach?_ofNames {names : List FileName} (isName : ∀ name ∈ names, Path.IsName name)
    (h : (root.at? names).isSome = true) (absolute : Bool) :
    root.reach? (.ofNames absolute names) = some names := by
  rw [reach?, Path.pieces_ofNames isName, foldlM_names isName (by simpa using h)]
  simp

/-- **Normal forms lead to the same place.** -/
theorem reach?_normalize (h : root.reach? path = some location) :
    root.reach? path.normalize = some location := by
  obtain rfl := eq_of_reach? h
  exact reach?_ofNames (fun _ hname => Path.isName_of_mem_normalNames hname) (isSome_of_reach? h) _

end Node

/-! ## The walk of the machine -/

section

variable {root : Node} (linkless : root.Linkless) {follow : Bool} {links : Nat}
include linkless

/-- In a tree without links the machine takes the steps of a walk by name, through names that are not
too long. Only the last one may be free. -/
theorem walkFrom_cons {here : List FileName} (hhere : (root.at? here.reverse).isSome = true)
    (step : Octets) (rest : List Octets) :
    walkFrom root follow links here (step :: rest) =
      if root.hasDirectory here.reverse = false then .error .notDirectory
      else if longestName < step.length then .error .nameTooLong
      else match root.step? here step with
        | some next => walkFrom root follow links next rest
        | none => if rest = [] then .ok (.free here.reverse step) else .error .noSuchEntry := by
  obtain ⟨node, hnode⟩ := Option.isSome_iff_exists.1 hhere
  rw [walkFrom, hnode]
  cases node with
  | directory entries =>
    have parent : root.hasDirectory here.reverse = true := Node.hasDirectory_eq_true.2 ⟨_, hnode⟩
    have below : root.at? (step :: here).reverse = entries.lookup step := by
      rw [List.reverse_cons, Node.at?_append, hnode, Option.bind_some, Node.at?_directory]
      cases entries.lookup step <;> simp [Node.at?_nil]
    by_cases hdot : step = oneDot
    · simp [Node.step?, parent, hdot, longestName, oneDot]
    · by_cases hdots : step = twoDots
      · simp [Node.step?, parent, hdots, longestName, oneDot, twoDots]
      · simp only [Node.step?, parent, below, hdot, hdots, if_true, if_false]
        split
        · simp_all
        · cases hl : entries.lookup step with
          | none => simp
          | some found =>
            cases found with
            | link target => exact absurd (below.trans hl) (linkless _ target)
            | _ => simp
  | link target => exact absurd hnode (linkless _ target)
  | _ => simp [Node.hasDirectory, hnode, Node.isDirectory]

/-- Where the machine finds something. -/
theorem walkFrom_eq_occupied {location : Location} :
    ∀ {steps : List Octets} {here : List FileName}, (root.at? here.reverse).isSome = true →
      (walkFrom root follow links here steps = .ok (.occupied location) ↔
        steps.foldlM root.step? here = some location.reverse ∧
          ∀ step ∈ steps, step.length ≤ longestName)
  | [], here, _ => by
    rw [walkFrom]
    simp [List.reverse_eq_iff]
  | step :: steps, here, hhere => by
    rw [walkFrom_cons linkless hhere, List.foldlM_cons]
    cases parent : root.hasDirectory here.reverse with
    | false => simp [Node.step?, parent]
    | true =>
      by_cases long : longestName < step.length
      · simp [long, Nat.not_le_of_lt long]
      · have short : step.length ≤ longestName := Nat.le_of_not_lt long
        cases hstep : root.step? here step with
        | none => by_cases last : steps = [] <;> simp [long, last]
        | some next =>
          have ih := @walkFrom_eq_occupied location steps next
            (Node.isSome_of_step? hstep hhere)
          simpa [long, short] using ih

/-- Where the machine finds a free name: in a directory, behind a walk to it. -/
theorem of_walkFrom_free {directory : Location} {name : FileName} :
    ∀ {steps : List Octets} {here : List FileName}, (root.at? here.reverse).isSome = true →
      walkFrom root follow links here steps = .ok (.free directory name) →
      ∃ before, steps = before ++ [name] ∧
        before.foldlM root.step? here = some directory.reverse ∧
        root.hasDirectory directory = true ∧ root.step? directory.reverse name = none ∧
        ∀ step ∈ steps, step.length ≤ longestName
  | [], here, _, h => by
    rw [walkFrom] at h
    cases h
  | step :: steps, here, hhere, h => by
    rw [walkFrom_cons linkless hhere] at h
    split at h
    · cases h
    · next parent =>
      split at h
      · cases h
      · next long =>
        have short : step.length ≤ longestName := Nat.le_of_not_lt long
        split at h
        · next next hnext =>
          obtain ⟨before, rfl, walked, rest⟩ :=
            of_walkFrom_free (Node.isSome_of_step? hnext hhere) h
          refine ⟨step :: before, rfl, ?_, rest.1, rest.2.1, ?_⟩
          · rw [List.foldlM_cons, hnext]
            exact walked
          · simpa [short] using rest.2.2
        · next blocked =>
          split at h
          · next last =>
            subst last
            cases h
            refine ⟨[], rfl, ?_, Bool.of_not_eq_false parent, ?_, by simpa using short⟩
            · rw [List.reverse_reverse]
              rfl
            · rwa [List.reverse_reverse]
          · cases h

theorem walkFrom_eq_free {directory : Location} {name : FileName}
    (inside : root.hasDirectory directory = true)
    (blocked : root.step? directory.reverse name = none) :
    ∀ {before : List Octets} {here : List FileName}, (root.at? here.reverse).isSome = true →
      before.foldlM root.step? here = some directory.reverse →
      (∀ step ∈ before ++ [name], step.length ≤ longestName) →
      walkFrom root follow links here (before ++ [name]) = .ok (.free directory name)
  | [], here, hhere, walked, names => by
    obtain rfl : here = directory.reverse := Option.some.inj walked
    have short : ¬ longestName < name.length := Nat.not_lt_of_le (names name (by simp))
    rw [List.nil_append, walkFrom_cons linkless hhere, blocked]
    simp [inside, short]
  | step :: before, here, hhere, walked, names => by
    rw [List.foldlM_cons] at walked
    obtain ⟨next, hnext, walked⟩ := Option.bind_eq_some_iff.1 walked
    have parent := Node.hasDirectory_of_step? hnext
    have short : ¬ longestName < step.length := Nat.not_lt_of_le (names step (by simp))
    rw [List.cons_append, walkFrom_cons linkless hhere, hnext, if_neg (by simp [parent]),
      if_neg short]
    exact walkFrom_eq_free inside blocked (Node.isSome_of_step? hnext hhere) walked
      fun s hs => names s (by simp at hs ⊢; tauto)

end

theorem locate_eq_ok_iff_walk {root : Node} {base : Location} {path : Path} {follow : Bool}
    {location : Location} :
    locate root base path follow = .ok location ↔
      walk root base path follow = .ok (.occupied location) := by
  unfold locate
  split <;> simp_all

namespace Node

variable {root : Node}

theorem reach?_eq_some {path : Path} {location : Location} :
    root.reach? path = some location ↔
      path.pieces.foldlM root.step? [] = some location.reverse := by
  simp [reach?, List.reverse_eq_iff]

theorem step?_eq_none {here : List FileName} {piece : Octets}
    (inside : root.hasDirectory here.reverse = true) :
    root.step? here piece = none ↔
      piece ≠ oneDot ∧ piece ≠ twoDots ∧ root.at? (here.reverse ++ [piece]) = none := by
  rw [step?, if_pos inside, List.reverse_cons]
  by_cases hdot : piece = oneDot
  · simp [hdot]
  · by_cases hdots : piece = twoDots
    · subst hdots
      simp [hdot]
    · simp [hdot, hdots]

/-- A dot at the end asks for a directory. -/
theorem foldlM_concat_oneDot {steps : List Octets} {here there : List FileName} :
    (steps ++ [oneDot]).foldlM root.step? here = some there ↔
      steps.foldlM root.step? here = some there ∧ root.hasDirectory there.reverse = true := by
  have dot : ∀ last, root.step? last oneDot =
      if root.hasDirectory last.reverse then some last else none := by simp [step?]
  rw [List.foldlM_append]
  cases steps.foldlM root.step? here with
  | none => simp
  | some last =>
    by_cases directory : root.hasDirectory last.reverse = true
    · simp only [Option.bind_eq_bind, Option.bind_some, List.foldlM_cons, dot, directory, if_true,
        List.foldlM_nil, Option.pure_def, Option.some.injEq, iff_self_and]
      rintro rfl
      exact directory
    · simp only [Option.bind_eq_bind, Option.bind_some, List.foldlM_cons, dot, directory, if_false,
        Option.bind_none, reduceCtorEq, false_iff, Option.some.injEq, not_and]
      rintro rfl
      exact directory

end Node

theorem walk_of_isAbsolute {root : Node} {path : Path} (absolute : path.isAbsolute = true)
    (base : Location) (follow : Bool) :
    walk root base path follow =
      if pathLimit ≤ path.bytes.length then .error .nameTooLong
      else walkFrom root follow linkLimit [] (steps path) := by
  have hne : path.bytes ≠ [] := by
    intro empty
    simp [Path.isAbsolute, empty] at absolute
  rw [walk, if_neg hne, if_pos absolute]

/-- **Where the machine finds what a path leads to.** -/
theorem locate_eq_ok {root : Node} (linkless : root.Linkless) {path : Path}
    (absolute : path.isAbsolute = true) {base location : Location} {follow : Bool} :
    locate root base path follow = .ok location ↔
      root.reach? path = some location ∧
      (path.bytes.getLast? = some Path.slash → root.hasDirectory location = true) ∧
      path.bytes.length < pathLimit ∧ ∀ piece ∈ path.pieces, piece.length ≤ longestName := by
  rw [locate_eq_ok_iff_walk, walk_of_isAbsolute absolute, Node.reach?_eq_some]
  by_cases long : pathLimit ≤ path.bytes.length
  · simp [long, Nat.not_lt_of_le long]
  · have short : path.bytes.length < pathLimit := Nat.lt_of_not_le long
    rw [if_neg long, walkFrom_eq_occupied linkless (by simp [Node.at?_nil]), steps_eq]
    by_cases closed : path.bytes.getLast? = some Path.slash
    · have dots : (∀ step ∈ path.pieces ++ [oneDot], step.length ≤ longestName) ↔
          ∀ piece ∈ path.pieces, piece.length ≤ longestName := by
        rw [List.forall_mem_append, List.forall_mem_singleton]
        exact and_iff_left (by decide)
      rw [if_pos closed, Node.foldlM_concat_oneDot, List.reverse_reverse, dots]
      simp [closed, short, and_assoc]
    · simp [closed, short]

theorem locate_of_relative {root : Node} (linkless : root.Linkless) {path : Path}
    (relative : path.isAbsolute = false) (nonempty : path.bytes ≠ [])
    (short : path.bytes.length < pathLimit) {base location : Location}
    (there : (root.at? base).isSome = true) {follow : Bool} :
    locate root base path follow = .ok location ↔
      (steps path).foldlM root.step? base.reverse = some location.reverse ∧
        ∀ step ∈ steps path, step.length ≤ longestName := by
  rw [locate_eq_ok_iff_walk, walk, if_neg nonempty, if_neg (Nat.not_le_of_lt short),
    if_neg (by simp [relative]), walkFrom_eq_occupied linkless (by rwa [List.reverse_reverse])]

/-- **Where the machine finds a free name.** The path ends in this name, behind a walk to a directory
that has nothing called so. -/
theorem walk_eq_free {root : Node} (linkless : root.Linkless) {path : Path}
    (absolute : path.isAbsolute = true) {base directory : Location} {name : FileName}
    {follow : Bool} :
    walk root base path follow = .ok (.free directory name) ↔
      path.bytes.getLast? ≠ some Path.slash ∧ path.bytes.length < pathLimit ∧
      (∀ piece ∈ path.pieces, piece.length ≤ longestName) ∧
      ∃ before, path.pieces = before ++ [name] ∧
        before.foldlM root.step? [] = some directory.reverse ∧
        root.hasDirectory directory = true ∧ root.at? (directory ++ [name]) = none ∧
        name ≠ oneDot ∧ name ≠ twoDots := by
  have blocked_iff : root.hasDirectory directory = true →
      (root.step? directory.reverse name = none ↔
        name ≠ oneDot ∧ name ≠ twoDots ∧ root.at? (directory ++ [name]) = none) := fun inside => by
    rw [Node.step?_eq_none (by rwa [List.reverse_reverse]), List.reverse_reverse]
  rw [walk_of_isAbsolute absolute]
  constructor
  · intro h
    split at h
    · cases h
    · next short =>
      obtain ⟨before, hsteps, walked, inside, blocked, names⟩ :=
        of_walkFrom_free linkless (by simp [Node.at?_nil]) h
      obtain ⟨hdot, hdots, free⟩ := (blocked_iff inside).1 blocked
      rw [steps_eq] at hsteps names
      split at hsteps
      · exact absurd (List.append_inj_right' hsteps rfl) (by simpa using fun e => hdot e.symm)
      · next opened =>
        rw [List.append_nil] at hsteps
        exact ⟨opened, Nat.lt_of_not_le short,
          fun piece hpiece => names piece (List.mem_append_left _ hpiece),
          before, hsteps, walked, inside, free, hdot, hdots⟩
  · rintro ⟨opened, short, names, before, hpieces, walked, inside, free, hdot, hdots⟩
    rw [if_neg (Nat.not_le_of_lt short), steps_eq, if_neg opened, List.append_nil, hpieces]
    exact walkFrom_eq_free linkless inside ((blocked_iff inside).2 ⟨hdot, hdots, free⟩)
      (by simp [Node.at?_nil]) walked (by rwa [← hpieces])

end ThemedShell.FileTree
