import Mathlib
import ThemedShell.Machine
import ThemedShell.Proofs.CommandResult
import ThemedShell.Proofs.Utf8

/-!
# Entries of a listing

A listing that succeeds has a line for each entry, those of directories before the others and
otherwise in the order in which the machine gives the entries; one that fails at any entry shows none
(`ls_shows_each_entry_once`). The style of a line says to which group its entry belongs, and behind the
mark of the group stands the name, so both groups can be read back (`namesShown_lines`).
-/
namespace ThemedShell

namespace Command

/-! ## Lines of entries -/

def groupStyle (isDirectory : Bool) : LineStyle := if isDirectory then .directory else .file

/-- What the lines of a group begin with. -/
def groupMark (isDirectory : Bool) : String := if isDirectory then "  <DIR> " else "  "

/-- The line that shows an entry, which is a directory or not. -/
def entryLine (entry : FileName × Bool) : Line :=
  ⟨groupStyle entry.2, groupMark entry.2 ++ Text.decodeLossy entry.1⟩

/-- Directories come first; apart from that the order stays. -/
def directoriesFirst (entries : List (FileName × Bool)) : List (FileName × Bool) :=
  entries.filter (·.2) ++ entries.filter (!·.2)

theorem length_directoriesFirst (entries : List (FileName × Bool)) :
    (directoriesFirst entries).length = entries.length :=
  (List.filter_append_perm Prod.snd entries).length_eq

theorem filter_directoriesFirst (group : Bool) (entries : List (FileName × Bool)) :
    (directoriesFirst entries).filter (·.2 = group) = entries.filter (·.2 = group) := by
  cases group <;> simp [directoriesFirst, List.filter_filter]

theorem lines_ofEntries (entries : List (FileName × Bool)) :
    (Listing.ofEntries entries).lines = (directoriesFirst entries).map entryLine := by
  simp only [Listing.lines, Listing.ofEntries, directoriesFirst, List.map_append, List.map_map]
  congr 1
  · refine List.map_congr_left fun entry hentry => ?_
    have isDirectory : entry.2 = true := (List.mem_filter.1 hentry).2
    simp [entryLine, groupStyle, groupMark, isDirectory]
  · refine List.map_congr_left fun entry hentry => ?_
    have other : entry.2 = false := by simpa using (List.mem_filter.1 hentry).2
    simp [entryLine, groupStyle, groupMark, other]

/-! ## Reading entries back -/

/-- The names that the lines of a group show behind its mark. -/
def namesShown (group : Bool) (lines : List Line) : List FileName :=
  (lines.filter (·.style = groupStyle group)).map fun line =>
    Text.encode (.ofList (line.text.toList.drop (groupMark group).length))

theorem groupStyle_inj {group other : Bool} : groupStyle group = groupStyle other ↔ group = other := by
  cases group <;> cases other <;> decide

theorem encode_behind_mark {entry : FileName × Bool} (written : ∃ text, entry.1 = Text.encode text) :
    Text.encode (.ofList ((entryLine entry).text.toList.drop (groupMark entry.2).length)) =
      entry.1 := by
  obtain ⟨text, written⟩ := written
  rw [entryLine, written, Text.decodeLossy_encode, String.toList_append, ← String.length_toList,
    List.drop_left, String.ofList_toList]

/-- **Both groups are read back.** -/
theorem namesShown_lines {entries : List (FileName × Bool)}
    (written : ∀ name ∈ entries.map (·.1), ∃ text, name = Text.encode text) (header : String)
    (group : Bool) :
    namesShown group (.plain header :: (directoriesFirst entries).map entryLine) =
      (entries.filter (·.2 = group)).map (·.1) := by
  have apart : LineStyle.plain ≠ groupStyle group := by cases group <;> decide
  have shown : (fun line : Line => decide (line.style = groupStyle group)) ∘ entryLine =
      fun entry => decide (entry.2 = group) := by
    funext entry
    simp [entryLine, groupStyle_inj]
  rw [namesShown, List.filter_cons_of_neg (by simp [Line.plain, apart]), List.filter_map, shown,
    filter_directoriesFirst, List.map_map]
  refine List.map_congr_left fun entry hentry => ?_
  obtain ⟨mem, rfl⟩ : entry ∈ entries ∧ entry.2 = group := by simpa using hentry
  rw [Function.comp_apply]
  exact encode_behind_mark (written entry.1 (List.mem_map_of_mem mem))

/-! ## What a listing comes to -/

/-- Entries can all be read, or one is the first that cannot. -/
theorem readable_cases (entries : List (Except SystemError FileName)) :
    ((readable entries).2 = none ∧ entries = (readable entries).1.map .ok) ∨
      ∃ source rest, (readable entries).2 = some source ∧
        entries = (readable entries).1.map .ok ++ .error source :: rest := by
  induction entries with
  | nil => exact .inl ⟨rfl, rfl⟩
  | cons entry rest ih =>
    cases entry with
    | error source => exact .inr ⟨source, rest, rfl, rfl⟩
    | ok name =>
      rcases ih with ⟨none, all⟩ | ⟨source, others, some, cut⟩
      · exact .inl ⟨none, congrArg (.ok name :: ·) all⟩
      · exact .inr ⟨source, others, some, congrArg (.ok name :: ·) cut⟩

variable {σ : Type}

theorem map_fst_classify (host : Host σ) (target : Path) (names : List FileName) (run : Run σ) :
    (run.answer (classify host target names)).map (·.1) = names := by
  induction names generalizing run with
  | nil => rfl
  | cons name rest ih =>
    rw [(classify_cons host target name rest run).1, List.map_cons, ih]

end Command

/-- **Each entry is shown once.** Let there be a directory at the path that an argument of `ls` stands
for. If the machine does not let it be listed, or there is any entry that it cannot read, then `ls`
fails with the first such error and tells nothing. Otherwise it tells a header and one line for each
entry, first those of directories and then the others, both in the order of the entries; whether
one is a directory is asked in that order. From names that are well-formed text the lines give back
both groups. -/
theorem ls_shows_each_entry_once {σ : Type} (host : Host σ) (argument : String) (run : Run σ)
    {target : Path}
    (named : Command.listTarget host.home run.session.directory argument = some target)
    (found : run.answer (host.isDirectory target) = true) :
    let listed := (Command.list host argument).perform run
    let asked := run.after (host.isDirectory target)
    let answer := asked.answer (host.listDirectory target)
    let opened := asked.after (host.listDirectory target)
    (∃ source, answer = .error source ∧
      listed.1 = .error (.system "listing" source) ∧ listed.2.calls = run.calls) ∨
    (∃ (names : List FileName) (source : SystemError) (rest : List (Except SystemError FileName)),
      answer = .ok (names.map .ok ++ .error source :: rest) ∧
      listed.1 = .error (.system "listing" source) ∧ listed.2.calls = run.calls) ∨
    ∃ names : List FileName, answer = .ok (names.map .ok) ∧
      let entries := opened.answer (Command.classify host target names)
      let directories := entries.filter (·.2)
      let others := entries.filter (!·.2)
      let lines := .plain ("Contents of '" ++ target.display ++ "':") ::
        (directories ++ others).map Command.entryLine
      listed.1 = .ok .proceed ∧ listed.2.calls = run.calls ++ lines.map .append ∧
      entries.map (·.1) = names ∧ lines.length = names.length + 1 ∧
      ((∀ name ∈ names, ∃ text, name = Text.encode text) →
        Command.namesShown true lines = directories.map (·.1) ∧
        Command.namesShown false lines = others.map (·.1)) := by
  intro listed asked answer opened
  have performed : listed = (Command.listAt host argument target).perform run := by
    show (Command.list host argument).perform run = _
    rw [Command.perform_list, named]
  rw [Command.perform_listAt] at performed
  simp only [found, if_true] at performed
  cases hanswer : answer with
  | error source =>
    rw [show Run.answer _ _ = .error source from hanswer] at performed
    exact .inl ⟨source, rfl, by rw [performed]; exact ⟨rfl, rfl⟩⟩
  | ok given =>
    rw [show Run.answer _ _ = .ok given from hanswer] at performed
    dsimp only at performed
    refine .inr ?_
    rcases Command.readable_cases given with ⟨none, all⟩ | ⟨source, rest, some, cut⟩
    · rw [none] at performed
      refine .inr ⟨_, congrArg Except.ok all, ?_⟩
      generalize (Command.readable given).1 = names at performed
      intro entries directories others lines
      have kept : entries.map (·.1) = names := Command.map_fst_classify host target names opened
      have readBack (group : Bool) (written : ∀ name ∈ names, ∃ text, name = Text.encode text) :
          Command.namesShown group lines = (entries.filter (·.2 = group)).map (·.1) :=
        Command.namesShown_lines (by rwa [kept]) _ group
      have told : listed.2.calls = run.calls ++ lines.map .append := by
        rw [performed]
        show _ ++ _ = _
        rw [Command.lines_ofEntries]
        rfl
      refine ⟨by rw [performed], told, kept, ?_, fun written => ⟨?_, ?_⟩⟩
      · rw [List.length_cons, List.length_map, ← kept, List.length_map]
        exact congrArg (· + 1) (Command.length_directoriesFirst entries)
      · simpa using readBack true written
      · simpa using readBack false written
    · rw [some] at performed
      exact .inl ⟨_, source, rest, congrArg Except.ok cut, by rw [performed]; exact ⟨rfl, rfl⟩⟩

/-- A directory, two files, one of them with a misleading name, and two links of which one leads to
the directory. -/
def Machine.mixed : Machine where
  root := .directory
    [(Text.encode "note", .file .empty false), (Text.encode "way", .link (.ofString "srv")),
      (Text.encode "srv", .directory []), (Text.encode "<DIR> x", .file .empty false),
      (Text.encode "gone", .link (.ofString "none"))]

theorem mixed_directory_is_listed :
    let host := Machine.host none fun _ _ => pure (.ok {})
    let run : Run Machine := { session := { directory := .root }, host := .mixed }
    let listed := (Command.list host "").perform run
    let lines : List Line := [.plain "Contents of '/':", ⟨.directory, "  <DIR> way"⟩,
      ⟨.directory, "  <DIR> srv"⟩, ⟨.file, "  note"⟩, ⟨.file, "  <DIR> x"⟩, ⟨.file, "  gone"⟩]
    Command.listTarget host.home run.session.directory "" = some .root ∧
      run.answer (host.isDirectory .root) = true ∧
      listed.1 = .ok .proceed ∧ listed.2.calls = lines.map .append ∧
      Command.namesShown true lines = ["way", "srv"].map Text.encode ∧
      Command.namesShown false lines = ["note", "<DIR> x", "gone"].map Text.encode := by
  intro host run listed lines
  let present := ["note", "way", "srv", "<DIR> x", "gone"].map Text.encode
  have named : Command.listTarget host.home run.session.directory "" = some .root := by
    decide +kernel
  have found : run.answer (host.isDirectory .root) = true := by cbv
  have success : ((Command.list host "").perform run).1 = .ok .proceed := by cbv
  have told : ((Command.list host "").perform run).2.calls = lines.map .append := by cbv
  have given : (run.after (host.isDirectory .root)).answer (host.listDirectory .root) =
      .ok (present.map .ok) := by cbv
  have classified : ((run.after (host.isDirectory .root)).after
        (host.listDirectory .root)).answer (Command.classify host .root present) =
      [(Text.encode "note", false), (Text.encode "way", true), (Text.encode "srv", true),
        (Text.encode "<DIR> x", false), (Text.encode "gone", false)] := by cbv
  refine ⟨named, found, success, told, ?_⟩
  rcases ls_shows_each_entry_once host "" run named found with ⟨_, -, failed, -⟩ |
    ⟨_, _, _, -, failed, -⟩ | ⟨names, answered, -, shown, -, -, readBack⟩
  · cases success.symm.trans failed
  · cases success.symm.trans failed
  · obtain rfl : names = present :=
      (List.map_inj_right fun _ _ => Except.ok.inj).1 (Except.ok.inj (answered.symm.trans given))
    have same := (List.map_inj_right fun _ _ => SinkCall.append.inj).1 (shown.symm.trans told)
    rw [same, classified] at readBack
    exact readBack fun name mem => (List.mem_map.1 mem).imp fun _ written => written.2.symm

end ThemedShell
