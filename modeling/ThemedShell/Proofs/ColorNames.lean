import Mathlib
import ThemedShell.Proofs.LineGrammar
import ThemedShell.Proofs.Turn

/-!
# Names of colours

A token names the colour of the palette whose name it spells, whatever the case of the ASCII letters and
whatever blanks stand around it (`ofName?_eq_some`). The names of the palette consist of such letters
and stand in alphabetical order, so no two of them differ in case alone, and it does not matter in which
order they are tried (`colors_go_by_their_names`).
-/
namespace ThemedShell

namespace Text

/-! ## Letters in any case -/

/-- The one is a capital ASCII letter and the other the small letter of the same name. -/
def IsCapitalOf (capital small : Char) : Prop :=
  capital.isUpper = true ∧ small.toNat = capital.toNat + 0x20

/-- The characters differ at most in case, and only if they are ASCII letters. -/
def SameLetter (c d : Char) : Prop := c = d ∨ IsCapitalOf c d ∨ IsCapitalOf d c

/-- The texts agree character by character, but for the case of ASCII letters. -/
def SpellsInAnyCase (text name : String) : Prop :=
  List.Forall₂ SameLetter text.toList name.toList

theorem toNat_of_isUpper {c : Char} : c.isUpper = true ↔ 0x41 ≤ c.toNat ∧ c.toNat ≤ 0x5A := by
  simp [Char.isUpper, UInt32.le_iff_toNat_le]

theorem toNat_toLower (c : Char) :
    c.toLower.toNat = if c.isUpper then c.toNat + 0x20 else c.toNat := by
  split
  · next capital =>
    obtain ⟨low, high⟩ := toNat_of_isUpper.1 capital
    have valid : (c.toNat + 0x20).isValidChar := .inl (by omega)
    rw [Char.toLower_eq_of_isUpper capital, Char.toNat_ofNat, if_pos valid]
  · next other => rw [Char.toLower_eq_of_not_isUpper other]

theorem toLower_eq_iff {c d : Char} : c.toLower = d.toLower ↔ SameLetter c d := by
  rw [SameLetter, IsCapitalOf, IsCapitalOf, ← Char.toNat_inj, toNat_toLower, toNat_toLower,
    ← Char.toNat_inj]
  simp only [toNat_of_isUpper]
  split <;> split <;> omega

theorem isAlpha_of_sameLetter {c d : Char} (h : SameLetter c d) : c.isAlpha = d.isAlpha := by
  rw [← Char.isAlpha_toLower_eq_isAlpha c, toLower_eq_iff.2 h, Char.isAlpha_toLower_eq_isAlpha]

theorem isBlank_of_isAlpha {c : Char} (h : c.isAlpha = true) : isBlank c = false := by
  have letter : 0x41 ≤ c.toNat ∧ c.toNat ≤ 0x5A ∨ 0x61 ≤ c.toNat ∧ c.toNat ≤ 0x7A := by
    simpa [Char.isAlpha, Char.isUpper, Char.isLower, UInt32.le_iff_toNat_le] using h
  rw [← Bool.not_eq_true, isBlank, CharClass.has_iff]
  simp only [blankRanges, List.mem_cons, List.not_mem_nil, or_false]
  rintro ⟨r, range, low, high⟩
  rcases range with rfl | rfl | rfl | rfl | rfl | rfl | rfl | rfl | rfl | rfl <;> simp only at * <;>
    omega

end Text

namespace Color

/-! ## The names of the palette -/

/-- A name with its capitals made small. -/
def lowered (name : String) : List Char := name.toList.map Char.toLower

theorem lowered_eq_iff {text name : String} :
    lowered text = lowered name ↔ Text.SpellsInAnyCase text name := by
  rw [lowered, lowered, ← List.forall₂_eq_eq_eq, List.forall₂_map_left_iff,
    List.forall₂_map_right_iff]
  simp only [Text.toLower_eq_iff]
  rfl

/-- Each name comes before the next. -/
def ascending : List (List Char) → Bool
  | name :: next :: rest => decide (name < next) && ascending (next :: rest)
  | _ => true

theorem isChain_of_ascending :
    ∀ {names : List (List Char)}, ascending names = true → names.IsChain (· < ·)
  | [], _ => .nil
  | [name], _ => .singleton name
  | name :: next :: rest, h => by
    obtain ⟨first, others⟩ := Bool.and_eq_true_iff.1 h
    exact .cons_cons (of_decide_eq_true first) (isChain_of_ascending others)

/-- The names are made of letters and stand in alphabetical order. -/
theorem palette_in_order :
    (palette.all (fun color => color.name.toList.all Char.isAlpha) &&
      ascending (palette.map fun color => lowered color.name)) = true := by
  cbv

theorem nodup_lowered : (palette.map fun color => lowered color.name).Nodup := by
  have := isChain_of_ascending (Bool.and_eq_true_iff.1 palette_in_order).2
  exact this.pairwise.imp fun h => ne_of_lt h

/-- No two colours have names that differ in case alone. -/
theorem eq_of_spells {text : String} {color other : Color} (mem : color ∈ palette)
    (mem' : other ∈ palette) (h : Text.SpellsInAnyCase text color.name)
    (h' : Text.SpellsInAnyCase text other.name) : color = other :=
  List.inj_on_of_nodup_map nodup_lowered mem mem'
    ((lowered_eq_iff.2 h).symm.trans (lowered_eq_iff.2 h'))

theorem isAlpha_of_mem {color : Color} (mem : color ∈ palette) :
    ∀ c ∈ color.name.toList, c.isAlpha = true :=
  List.all_eq_true.1 (List.all_eq_true.1 (Bool.and_eq_true_iff.1 palette_in_order).1 color mem)

theorem isAlpha_of_spells {text : String} {color : Color} (mem : color ∈ palette)
    (h : Text.SpellsInAnyCase text color.name) : ∀ c ∈ text.toList, c.isAlpha = true := by
  intro c hc
  have mem' : c.toLower ∈ lowered color.name := lowered_eq_iff.2 h ▸ List.mem_map_of_mem hc
  obtain ⟨letter, hletter, same⟩ := List.mem_map.1 mem'
  rw [← Text.isAlpha_of_sameLetter (Text.toLower_eq_iff.1 same)]
  exact isAlpha_of_mem mem letter hletter

/-! ## Looking a name up -/

/-- In whatever order the colours are tried, a text names the one whose name it spells. -/
theorem find?_eq_some {order : List Color} (perm : order.Perm palette) {text : String}
    {color : Color} :
    (order.find? fun color => sameLetters color.name text) = some color ↔
      color ∈ palette ∧ Text.SpellsInAnyCase text color.name := by
  have same : ∀ color : Color, sameLetters color.name text = true ↔
      Text.SpellsInAnyCase text color.name := fun color => by
    rw [← lowered_eq_iff, sameLetters, beq_iff_eq]
    exact eq_comm
  have sound : ∀ {color}, (order.find? fun color => sameLetters color.name text) = some color →
      color ∈ palette ∧ Text.SpellsInAnyCase text color.name := fun found =>
    ⟨perm.mem_iff.1 (List.mem_of_find?_eq_some found),
      (same _).1 (by simpa using List.find?_some found)⟩
  constructor
  · exact sound
  · rintro ⟨mem, spells⟩
    cases found : order.find? fun color => sameLetters color.name text with
    | none =>
      have none := List.find?_eq_none.1 found color (perm.mem_iff.2 mem)
      exact absurd ((same color).2 spells) none
    | some other =>
      obtain ⟨mem', spells'⟩ := sound found
      rw [eq_of_spells mem' mem spells' spells]

theorem find?_perm {order : List Color} (perm : order.Perm palette) (text : String) :
    (order.find? fun color => sameLetters color.name text) =
      palette.find? fun color => sameLetters color.name text := by
  ext color
  rw [find?_eq_some perm, find?_eq_some (List.Perm.refl palette)]

theorem ofName?_eq_some {token : String} {color : Color} :
    ofName? token = some color ↔
      color ∈ palette ∧ Text.SpellsInAnyCase (Text.trim token) color.name :=
  find?_eq_some (List.Perm.refl palette)

theorem parse_eq_ok {token : String} {color : Color} :
    parse token = .ok color ↔ ofName? token = some color := by
  unfold parse
  cases ofName? token <;> simp

theorem token_of_error {token : String} {unknown : Unknown} (h : parse token = .error unknown) :
    unknown.token = Text.trim token := by
  unfold parse at h
  split at h
  · cases h
  · exact Except.error.inj h ▸ rfl

/-- Letters alone are not trimmed. -/
theorem trim_of_spells {text : String} {color : Color} (mem : color ∈ palette)
    (h : Text.SpellsInAnyCase text color.name) : Text.trim text = text := by
  have letters := isAlpha_of_spells mem h
  have stripped : Text.Stripped text.toList :=
    ⟨fun c hc => Text.isBlank_of_isAlpha (letters c (List.mem_of_head? hc)),
      fun c hc => Text.isBlank_of_isAlpha (letters c (List.mem_of_getLast? hc))⟩
  rw [← String.toList_inj, Text.toList_trim, stripped.stripBlanks_eq]

theorem parse_of_not_spells {token : String}
    (unknown : ∀ color ∈ palette, ¬ Text.SpellsInAnyCase (Text.trim token) color.name) :
    parse token = .error ⟨Text.trim token⟩ := by
  unfold parse
  cases found : ofName? token with
  | none => rfl
  | some color =>
    obtain ⟨mem, spells⟩ := ofName?_eq_some.1 found
    exact absurd spells (unknown color mem)

end Color

/-- **Colours go by their names.** A token names a colour exactly if the colour is in the palette and the
token, without the blanks around it, is as long as its name and spells it up to the case of ASCII
letters. No text spells the names of two colours, so the colours may be tried in any order. The name of
a colour is parsed as this colour in any case and between any blanks. A token that spells no name is
reported without the blanks around it; a command that sets either layer then fails with the same text
and leaves the session and all that the surface has been told as they were. -/
theorem colors_go_by_their_names {σ : Type} :
    (∀ (token : String) (color : Color), Color.ofName? token = some color ↔
      color ∈ Color.palette ∧ (Text.trim token).length = color.name.length ∧
        Text.SpellsInAnyCase (Text.trim token) color.name) ∧
    (∀ text, ∀ color ∈ Color.palette, ∀ other ∈ Color.palette,
      Text.SpellsInAnyCase text color.name → Text.SpellsInAnyCase text other.name →
      color = other) ∧
    (∀ (token : String) (order : List Color), order.Perm Color.palette →
      (order.find? fun color => Color.sameLetters color.name (Text.trim token)) =
        Color.ofName? token) ∧
    (∀ color ∈ Color.palette, ∀ before text after, Text.isBlankText before = true →
      Text.isBlankText after = true → Text.SpellsInAnyCase text color.name →
      Color.parse (before ++ text ++ after) = .ok color) ∧
    ∀ token, (∀ color ∈ Color.palette,
        ¬ Text.SpellsInAnyCase (Text.trim token) color.name) →
      Color.parse token = .error ⟨Text.trim token⟩ ∧
      ∀ (layer : Layer) (run : Run σ), (Command.setColor layer token).perform run =
        (.error (.unrecognizedColor (Text.trim token) (Command.suggestions layer)), run) := by
  refine ⟨fun token color => ?found, fun text color mem other mem' => Color.eq_of_spells mem mem',
    fun token order perm => Color.find?_perm perm _, ?again, fun token unknown => ⟨?_, ?_⟩⟩
  case found =>
    rw [Color.ofName?_eq_some]
    refine and_congr_right fun _ => ⟨fun spells => ⟨?_, spells⟩, And.right⟩
    rw [← String.length_toList, ← String.length_toList]
    exact spells.length_eq
  case again =>
    intro color mem before text after hbefore hafter spells
    rw [Color.parse_eq_ok, Color.ofName?_eq_some, Text.trim_around hbefore hafter,
      Color.trim_of_spells mem spells]
    exact ⟨mem, spells⟩
  · exact Color.parse_of_not_spells unknown
  · intro layer run
    rw [Command.perform_setColor, Color.parse_of_not_spells unknown]

/-- Wrong case and odd blanks do no harm, but the Kelvin sign is no `k`. -/
theorem black_without_kelvin_sign :
    let before := "\u2003\t"
    let kelvin := " Blac\u212a\n"
    Color.black ∈ Color.palette ∧ Text.SpellsInAnyCase "bLACk" Color.black.name ∧
      Text.isBlankText before = true ∧
      Color.parse (before ++ "bLACk" ++ "\n") = .ok .black ∧
      (∀ color ∈ Color.palette, ¬ Text.SpellsInAnyCase (Text.trim kelvin) color.name) ∧
      Color.parse kelvin = .error ⟨"Blac\u212a"⟩ ∧
      (Command.setColor .background kelvin).perform Run.bare =
        (.error (.unrecognizedColor "Blac\u212a" "Black, Blue, Green, Red, White"), Run.bare) := by
  intro before kelvin
  have mem : Color.black ∈ Color.palette := by simp [Color.palette]
  have spells : Text.SpellsInAnyCase "bLACk" Color.black.name :=
    Color.lowered_eq_iff.1 (by decide +kernel)
  have blank : Text.isBlankText before = true := by decide +kernel
  have trimmed : Text.trim kelvin = "Blac\u212a" := by decide +kernel
  have unknown : ∀ color ∈ Color.palette,
      ¬ Text.SpellsInAnyCase (Text.trim kelvin) color.name := by
    intro color mem spells
    rw [trimmed] at spells
    exact absurd (Color.isAlpha_of_spells mem spells '\u212a' (by decide)) (by decide)
  obtain ⟨-, -, -, again, missed⟩ := @colors_go_by_their_names Unit
  obtain ⟨parsed, failed⟩ := missed kelvin unknown
  rw [trimmed] at parsed failed
  exact ⟨mem, spells, blank, again _ mem _ _ _ blank (by decide +kernel) spells, unknown, parsed,
    failed .background .bare⟩

end ThemedShell
