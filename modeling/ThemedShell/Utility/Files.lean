import ThemedShell.Path.Normal
import ThemedShell.Utility.Text

/-!
# Utilities on files

Utilities that look at the tree of files and change it. Each operand is dealt with on its own; a
failure is reported and the next operand follows.
-/
namespace ThemedShell.Utility

open Text (Octets)
open CommandLanguage
open FileTree (Node Location)

/-! ## The tree of a process -/

def findNode (path : Octets) (follow : Bool) : Step (Except SystemError Node) := do
  let p ← get
  return FileTree.find p.world.root p.here ⟨path⟩ follow

def isDirectory (path : Octets) : Step Bool := do
  let p ← get
  return FileTree.isDirectoryAt p.world.root p.here ⟨path⟩

/-- Changes the tree, or tells why it cannot be. -/
def change (f : Node → Location → Except SystemError Node) : Step (Option SystemError) := do
  let p ← get
  match f p.world.root p.here with
  | .ok root =>
    set (p.setRoot root)
    return none
  | .error e => return some e

/-- Deals with the operands one by one; the status is that of a failure if there is one. -/
def forEach {α : Type} (items : List α) (one : α → Step Bool) : Step Nat := do
  let mut failed := false
  for item in items do
    if !(← one item) then failed := true
  return if failed then 1 else 0

/-- A name within a directory, as it is written. -/
def within (directory name : Octets) : Octets :=
  if directory.getLast? = some Path.slash then directory ++ name
  else directory ++ Path.slash :: name

/-! ## Listing -/

/-- The mark behind the name of a file that tells its kind. -/
def mark (c : Call) (node : Node) : Octets :=
  match node with
  | .directory _ => if c.has 'F' || c.has 'p' then bytes "/" else []
  | .link _ => if c.has 'F' then bytes "@" else []
  | .file _ executable => if c.has 'F' && executable then bytes "*" else []
  | .nullDevice => []

def sortNames (c : Call) (names : List Octets) : List Octets :=
  if c.has 'U' || c.has 'f' then names
  else
    let sorted := names.mergeSort fun a b => decide (a ≤ b)
    if c.has 'r' then sorted.reverse else sorted

/-- The entries of a directory that are shown, with their marks. -/
def shownEntries (c : Call) (entries : FileTree.Entries) : Octets :=
  let all : FileTree.Entries :=
    (if c.has 'a' || c.has 'f' then
      [(FileTree.oneDot, .empty), (FileTree.twoDots, .empty)] else []) ++ entries
  let shown := all.filter fun (name, _) =>
    c.has 'a' || c.has 'f' || c.has 'A' || name.head? != some Path.dot
  let names := sortNames c (shown.map Prod.fst)
  unlines (names.map fun name => name ++ ((shown.lookup name).map (mark c)).getD [])

/-- Lists directories, each with a heading if `headings` says so, and those below them. -/
def listEach (c : Call) : Nat → Bool → Bool → List Octets → Step Unit
  | 0, _, _, _ => return
  | _ + 1, _, _, [] => return
  | fuel + 1, headings, first, path :: rest => do
    let entries := match ← findNode path true with
      | .ok node => node.entries
      | .error _ => []
    if headings then
      Step.out ((if first then [] else [ascii '\n']) ++ quotedHeading path ++ bytes ":\n")
    Step.out (shownEntries c entries)
    if c.has 'R' then
      let deeper := sortNames c ((entries.filter fun (name, node) => node.isDirectory
        && (c.has 'a' || c.has 'A' || name.head? != some Path.dot)).map Prod.fst)
      listEach c fuel headings false (deeper.map (within path))
    listEach c fuel headings false rest
where
  /-- A heading is written as the name was given. -/
  quotedHeading (path : Octets) : Octets := path

def ls (arguments : List Octets) : Step Nat :=
  withCall "ls" "aA1dFpRrUCfltShnogisxmqNLkucvHBGQXZ" "wIT" [("--all", 'a'), ("--almost-all", 'A'),
      ("--recursive", 'R'), ("--reverse", 'r'), ("--directory", 'd'), ("--classify", 'F')] 2
      arguments fun c => do
    let operands := if c.operands.isEmpty then [[Path.dot]] else c.operands
    let mut files : List (Octets × Node) := []
    let mut directories : List Octets := []
    let mut failed := false
    for path in operands do
      let follows ← findNode path (!c.has 'd')
      let found ← match follows with
        | .ok node => pure (Except.ok node)
        | .error _ => findNode path false
      match found with
      | .error e =>
        complainOf "ls" "cannot access" path e
        failed := true
      | .ok node =>
        if node.isDirectory && !c.has 'd' then directories := directories ++ [path]
        else files := files ++ [(path, node)]
    let names := sortNames c (files.map Prod.fst)
    Step.out (unlines (names.map fun name => name ++ ((files.lookup name).map (mark c)).getD []))
    let headings := c.operands.length > 1 || c.has 'R'
    listEach c 10000 headings files.isEmpty (sortNames c directories)
    return if failed then 2 else 0

/-! ## Making -/

/-- All beginnings of a path that end before a slash or at its end. -/
def beginnings (path : Octets) : List Octets :=
  ((List.range (path.length + 1)).filter fun n =>
    n > 0 && path[n]?.all (· == Path.slash) && path[n - 1]? != some Path.slash).map path.take

def mkdir (arguments : List Octets) : Step Nat :=
  withCall "mkdir" "pvZ" "m" [("--parents", 'p'), ("--verbose", 'v'), ("--mode", 'm')] 1 arguments
      fun c => do
    if c.operands.isEmpty then return ← misuse "mkdir" "missing operand" 1
    let make (path : Octets) (mayExist isPartial : Bool) : Step Bool := do
      match ← change fun root here => FileTree.createDirectory root here ⟨path⟩ with
      | none =>
        if c.has 'v' then
          Step.out (bytes "mkdir: created directory " ++ quoted path ++ [ascii '\n'])
        return true
      | some e =>
        if mayExist && (← isDirectory path) then return true
        let e := if mayExist && e == .alreadyExists && isPartial then .notDirectory else e
        complainOf "mkdir" "cannot create directory" path e
        return false
    forEach c.operands fun path => do
      if c.has 'p' then
        for part in beginnings path do
          if !(← make part true (part ≠ path)) then return false
        return true
      else make path false false

def rmdir (arguments : List Octets) : Step Nat :=
  withCall "rmdir" "pv" "" [("--parents", 'p'), ("--verbose", 'v'),
      ("--ignore-fail-on-non-empty", 'i')] 1 arguments fun c => do
    if c.operands.isEmpty then return ← misuse "rmdir" "missing operand" 1
    forEach c.operands fun path => do
      let paths := if c.has 'p' then (beginnings path).reverse else [path]
      for path in paths do
        match ← change fun root here => FileTree.removeDirectory root here ⟨path⟩ with
        | none => pure ()
        | some e =>
          complainOf "rmdir" "failed to remove" path e
          return false
      return true

def touch (arguments : List Octets) : Step Nat :=
  withCall "touch" "acmfh" "drt" [("--no-create", 'c')] 1 arguments fun c => do
    if c.operands.isEmpty then return ← misuse "touch" "missing file operand" 1
    forEach c.operands fun path => do
      match ← findNode path true with
      | .ok _ => return true
      | .error missing =>
        if c.has 'c' && missing == .noSuchEntry then return true
        match ← change fun root here => (FileTree.openFile root here ⟨path⟩ false).map Prod.snd with
        | none => return true
        | some e =>
          complainOf "touch" "cannot touch" path (if e == .isDirectory then missing else e)
          return false

/-! ## Removing -/

/-- Where a path leads to, if something is there. -/
def placeOf (path : Octets) : Step (Option Location) := do
  let p ← get
  return (FileTree.locate p.world.root p.here ⟨path⟩ true).toOption

def isDots (name : Octets) : Bool := name == FileTree.oneDot || name == FileTree.twoDots

def rm (arguments : List Octets) : Step Nat :=
  withCall "rm" "rRfdvi" "" [("--recursive", 'r'), ("--force", 'f'), ("--verbose", 'v'),
      ("--dir", 'd')] 1 arguments fun c => do
    if c.operands.isEmpty then
      return ← if c.has 'f' then pure 0 else misuse "rm" "missing operand" 1
    let recursive := c.has 'r' || c.has 'R'
    forEach c.operands fun path => do
      match ← findNode path false with
      | .error e =>
        if c.has 'f' && (e == .noSuchEntry || e == .notDirectory) then return true
        complainOf "rm" "cannot remove" path e
        return false
      | .ok node =>
        if node.isDirectory && !recursive && !(c.has 'd' && node.entries.isEmpty) then
          complainOf "rm" "cannot remove" path (if c.has 'd' then .notEmpty else .isDirectory)
          return false
        if node.isDirectory && isDots (lastName path) then
          complain "rm" (bytes "refusing to remove '.' or '..' directory: skipping " ++ quoted path)
          return false
        if (← placeOf path) == some [] then
          complainText "rm" "it is dangerous to operate recursively on '/'"
          complainText "rm" "use --no-preserve-root to override this failsafe"
          return false
        let _ ← change fun root here =>
          (FileTree.locate root here (FileTree.dropLastSlashes ⟨path⟩) false).map root.erase
        if c.has 'v' then
          Step.out (bytes (if node.isDirectory then "removed directory " else "removed ")
            ++ quoted path ++ [ascii '\n'])
        return true

/-! ## Moving and copying -/

/-- The sources and where each goes: into a directory, or to the only target. -/
def destinations (name : String) (operands : List Octets) :
    Step (Option (List (Octets × Octets))) := do
  match operands with
  | [] =>
    let _ ← misuse name "missing file operand" 1
    return none
  | [only] =>
    complain name (bytes "missing destination file operand after " ++ quoted only)
    seeHelp name
    return none
  | _ =>
    let target := operands.getLast?.getD []
    let sources := operands.dropLast
    if ← isDirectory target then
      return some (sources.map fun s => (s, within target (lastName s)))
    else if sources.length > 1 then
      let why := match ← findNode target true with
        | .ok _ => "Not a directory"
        | .error e => reason e
      complain name (bytes "target " ++ quoted target ++ bytes (": " ++ why))
      return none
    else return some (sources.map fun s => (s, target))

def moveOne (c : Call) (source target : Octets) : Step Bool := do
  match ← findNode source false with
  | .error e =>
    complainOf "mv" "cannot stat" source e
    return false
  | .ok node =>
    let occupied ← findNode target false
    if c.has 'n' && occupied.toBool then return true
    let same := (← placeOf source).isSome && (← placeOf source) == (← placeOf target)
    if same && !node.isLink then
      complain "mv" (quoted source ++ bytes " and " ++ quoted target ++ bytes " are the same file")
      return false
    match ← change fun root here => FileTree.rename root here ⟨source⟩ ⟨target⟩ with
    | none =>
      if c.has 'v' then
        Step.out (bytes "renamed " ++ quoted source ++ bytes " -> " ++ quoted target
          ++ [ascii '\n'])
      return true
    | some e =>
      if e == .invalidArgument then
        complain "mv" (bytes "cannot move " ++ quoted source
          ++ bytes " to a subdirectory of itself, " ++ quoted target)
      else if e == .notDirectory && node.isDirectory && occupied.toBool then
        complain "mv" (bytes "cannot overwrite non-directory " ++ quoted target
          ++ bytes " with directory " ++ quoted source)
      else if e == .isDirectory then
        complain "mv" (bytes "cannot overwrite directory " ++ quoted target
          ++ bytes " with non-directory")
      else
        complain "mv" (bytes "cannot move " ++ quoted source ++ bytes " to " ++ quoted target
          ++ bytes (": " ++ reason e))
      return false

def mv (arguments : List Octets) : Step Nat :=
  withCall "mv" "fniuvT" "" [("--force", 'f'), ("--no-clobber", 'n'), ("--verbose", 'v')] 1
      arguments fun c => do
    match ← destinations "mv" c.operands with
    | none => return 1
    | some moves => forEach moves fun (source, target) => moveOne c source target

/-- The first node with the entries of the second laid over it. -/
def overlay : Nat → Node → Node → Node
  | 0, _, new => new
  | fuel + 1, .directory old, .directory new =>
    .directory (new.foldl (fun entries (name, node) =>
      FileTree.Entries.alter name (fun before => some (match before with
        | some before => overlay fuel before node
        | none => node)) entries) old)
  | _ + 1, _, new => new

def copyOne (c : Call) (source target : Octets) : Step Bool := do
  let recursive := c.has 'r' || c.has 'R' || c.has 'a'
  match ← findNode source (!(c.has 'a' || c.has 'P' || c.has 'd')) with
  | .error e =>
    complainOf "cp" "cannot stat" source e
    return false
  | .ok node =>
    if node.isDirectory && !recursive then
      complain "cp" (bytes "-r not specified; omitting directory " ++ quoted source)
      return false
    let existing := (← findNode target true).toOption
    if existing.isSome && (← placeOf source) == (← placeOf target) then
      complain "cp" (quoted source ++ bytes " and " ++ quoted target ++ bytes " are the same file")
      return false
    if c.has 'n' && existing.isSome then return true
    if node.isDirectory && existing.any fun old => !old.isDirectory then
      complain "cp" (bytes "cannot overwrite non-directory " ++ quoted target
        ++ bytes " with directory " ++ quoted source)
      return false
    if !node.isDirectory && existing.any Node.isDirectory then
      complain "cp" (bytes "cannot overwrite directory " ++ quoted target
        ++ bytes " with non-directory")
      return false
    let own ← placeOf source
    let other ← placeOf (withoutLastName target)
    if node.isDirectory && (own.bind fun a => other.map a.isPrefixOf) == some true then
      complain "cp" (bytes "cannot copy a directory, " ++ quoted source ++ bytes ", into itself, "
        ++ quoted target)
      return false
    let new := match existing with
      | some old => overlay 1000 old node
      | none => node
    match ← change fun root here => do
        match ← FileTree.walk root here (FileTree.dropLastSlashes ⟨target⟩) true with
        | .occupied location => .ok (root.insert location new)
        | .free directory name => .ok (root.insert (directory ++ [name]) new) with
    | none => return true
    | some e =>
      let action := if node.isDirectory then "cannot create directory"
        else "cannot create regular file"
      complainOf "cp" action target e
      return false

def cp (arguments : List Octets) : Step Nat :=
  withCall "cp" "rRafnpvduPiLlsT" "" [("--recursive", 'r'), ("--archive", 'a'), ("--force", 'f'),
      ("--no-clobber", 'n')] 1 arguments fun c => do
    match ← destinations "cp" c.operands with
    | none => return 1
    | some copies => forEach copies fun (source, target) => copyOne c source target

def linkOne (c : Call) (source target : Octets) : Step Bool := do
  let symbolic := c.has 's'
  let node ← if symbolic then pure (Except.ok (Node.link ⟨source⟩)) else findNode source false
  match node with
  | .error e =>
    complainOf "ln" "failed to access" source e
    return false
  | .ok node =>
    if node.isDirectory then
      complain "ln" (quotedIfNeeded source ++ bytes ": hard link not allowed for directory")
      return false
    if c.has 'f' then
      let _ ← change fun root here => FileTree.removeFile root here ⟨target⟩
    match ← change fun root here => FileTree.addNode root here ⟨target⟩ node with
    | none =>
      if c.has 'v' then
        Step.out (quoted target ++ bytes (if symbolic then " -> " else " => ") ++ quoted source
          ++ [ascii '\n'])
      return true
    | some e =>
      let kind := if symbolic then "failed to create symbolic link" else "failed to create hard link"
      complainOf "ln" kind target e
      return false

def ln (arguments : List Octets) : Step Nat :=
  withCall "ln" "sfnvTirLP" "" [("--symbolic", 's'), ("--force", 'f'), ("--no-dereference", 'n'),
      ("--verbose", 'v')] 1 arguments fun c => do
    match c.operands with
    | [] => misuse "ln" "missing file operand" 1
    | [only] => forEach [only] fun source => linkOne c source (lastName source)
    | [source, target] =>
      let intoDirectory := (← isDirectory target)
        && !((c.has 'n' || c.has 'T') && (← findNode target false).toOption.any Node.isLink)
        && !c.has 'T'
      forEach [source] fun source =>
        linkOne c source (if intoDirectory then within target (lastName source) else target)
    | many =>
      match ← destinations "ln" many with
      | none => return 1
      | some links => forEach links fun (source, target) => linkOne c source target

/-! ## Contents -/

/-- Lines with what the options of `cat` add to them. -/
def decorate (c : Call) (s : Octets) : Octets :=
  let numbered := c.has 'n' || c.has 'b'
  let ended := s.getLast? = some (ascii '\n')
  let ends := c.has 'E' || c.has 'e' || c.has 'A'
  let tabs := c.has 'T' || c.has 't' || c.has 'A'
  let lines := linesOf s
  let out := (lines.foldl (fun (n, out) line =>
    let line := if tabs then
        line.flatMap fun b => if asChar b == '\t' then bytes "^I" else [b]
      else line
    if numbered && !(c.has 'b' && line.isEmpty) then
      (n + 1, (padLeft 6 (decimal n) ++ ascii '\t' :: line) :: out)
    else (n, line :: out)) (1, ([] : List Octets))).2.reverse
  let text := unlines (out.map fun line => if ends then line ++ bytes "$" else line)
  if ended || lines.isEmpty then text else text.dropLast

def cat (arguments : List Octets) : Step Nat :=
  withCall "cat" "nbsvetAETu" "" [("--number", 'n'), ("--show-ends", 'E'), ("--show-all", 'A'),
      ("--show-tabs", 'T')] 1 arguments fun c => do
    let operands := if c.operands.isEmpty then [bytes "-"] else c.operands
    let plain := !("nbeEtTA".toList.any c.has)
    forEach operands fun file => do
      match ← readPath file with
      | .ok content =>
        Step.out (if plain then content else decorate c content)
        return true
      | .error e =>
        complain "cat" (quotedIfNeeded file ++ bytes (": " ++ reason e))
        return false

/-- Writes bytes into a file, behind its content if `append` says so. -/
def writeFile (path : Octets) (append : Bool) (content : Octets) : Step (Option SystemError) :=
  change fun root here => do
    let (location, root) ← FileTree.openFile root here ⟨path⟩ (!append)
    let offset := if append then FileTree.sizeAt root location else 0
    .ok (FileTree.writeAt root location offset ⟨content.toArray⟩)

def tee (arguments : List Octets) : Step Nat :=
  withCall "tee" "aip" "" [("--append", 'a')] 1 arguments fun c => do
    let content := match ← Step.readAll 0 with
      | .ok content => content
      | .error _ => []
    Step.out content
    forEach c.operands fun path => do
      match ← writeFile path (c.has 'a') content with
      | none => return true
      | some e =>
        complain "tee" (quotedIfNeeded path ++ bytes (": " ++ reason e))
        return false

/-! ## Links and paths -/

def pathOf (location : Location) : Octets := (Path.ofNames true location).bytes

def readlink (arguments : List Octets) : Step Nat :=
  withCall "readlink" "fenmqsvz" "" [("--canonicalize", 'f')] 1 arguments fun c => do
    if c.operands.isEmpty then return ← misuse "readlink" "missing operand" 1
    forEach c.operands fun path => do
      if c.has 'f' || c.has 'e' || c.has 'm' then
        let p ← get
        match FileTree.walk p.world.root p.here ⟨path⟩ true with
        | .ok (.occupied location) =>
          Step.out (pathOf location ++ [ascii '\n'])
          return true
        | .ok (.free directory name) =>
          if c.has 'e' then return false
          Step.out (pathOf (directory ++ [name]) ++ [ascii '\n'])
          return true
        | .error _ => return false
      else
        match ← findNode path false with
        | .ok (.link target) =>
          Step.out (target.bytes ++ if c.has 'n' then [] else [ascii '\n'])
          return true
        | _ => return false

def realpath (arguments : List Octets) : Step Nat :=
  withCall "realpath" "emqsLPz" "" [] 1 arguments fun c => do
    if c.operands.isEmpty then return ← misuse "realpath" "missing operand" 1
    forEach c.operands fun path => do
      let p ← get
      match FileTree.walk p.world.root p.here ⟨path⟩ true with
      | .ok (.occupied location) =>
        Step.out (pathOf location ++ [ascii '\n'])
        return true
      | .ok (.free directory name) =>
        Step.out (pathOf (directory ++ [name]) ++ [ascii '\n'])
        return true
      | .error e =>
        complain "realpath" (quotedIfNeeded path ++ bytes (": " ++ reason e))
        return false

/-- Whether a mode makes a file executable, if it says anything about that. -/
def executableMode (mode : Octets) : Option Bool :=
  if mode.all isDigit then
    some ((mode.map fun b => b.toNat - 48).any fun n => n % 2 = 1)
  else if mode.contains (ascii 'x') then some (!mode.contains (ascii '-'))
  else if mode.contains (ascii '=') then some false
  else none

/-- A mode: digits, or letters with a sign between them. -/
def isMode (mode : Octets) : Bool :=
  (mode.all fun b => '0' ≤ asChar b && asChar b ≤ '7')
    || ((mode.all fun b => "ugoa+-=rwxXst,".toList.contains (asChar b))
      && mode.any fun b => "+-=".toList.contains (asChar b))

def chmod (arguments : List Octets) : Step Nat :=
  let arguments := arguments.filter fun a => a != bytes "-R" && a != bytes "-f"
  match arguments with
  | [] => misuse "chmod" "missing operand" 1
  | [mode] => do
    complain "chmod" (bytes "missing operand after " ++ quoted mode)
    seeHelp "chmod"
    return 1
  | mode :: files => do
    if !isMode mode then
      complain "chmod" (bytes "invalid mode: " ++ quoted mode)
      seeHelp "chmod"
      return 1
    forEach files fun path => do
    match ← change fun root here => do
        let location ← FileTree.locate root here ⟨path⟩ true
        match root.at? location with
        | some (.file content executable) =>
          .ok (root.insert location (.file content ((executableMode mode).getD executable)))
        | _ => .ok root with
    | none => return true
    | some e =>
      complainOf "chmod" "cannot access" path e
      return false

/-! ## Searching the tree -/

/-- What `find` asks of an entry. -/
structure Wanted where
  pattern : Option Pattern := none
  kind : Option Char := none
  least : Nat := 0
  most : Option Nat := none
  prune : Bool := false

def kindLetter : Node → Char
  | .directory _ => 'd'
  | .link _ => 'l'
  | .file _ _ => 'f'
  | .nullDevice => 'c'

def Wanted.accepts (w : Wanted) (depth : Nat) (name : Octets) (node : Node) : Bool :=
  w.pattern.all (fun pattern => pattern.isMatch name) && w.kind.all (· == kindLetter node)
    && w.least ≤ depth && w.most.all (depth ≤ ·)

def readWanted : List Octets → Wanted → Option Wanted
  | [], w => some w
  | option :: rest, w =>
    if option == bytes "-print" then readWanted rest w
    else match rest with
      | [] => none
      | value :: rest =>
        if option == bytes "-name" then
          readWanted rest { w with pattern := some (Pattern.ofBytes value) }
        else if option == bytes "-type" then readWanted rest { w with kind := value.head?.map asChar }
        else if option == bytes "-maxdepth" then readWanted rest { w with most := toNat? value }
        else if option == bytes "-mindepth" then
          readWanted rest { w with least := (toNat? value).getD 0 }
        else none

def find (arguments : List Octets) : Step Nat := do
  let starts := arguments.takeWhile fun a => !(bytes "-").isPrefixOf a
  let options := arguments.drop starts.length
  match readWanted options {} with
  | none =>
    complain "find" (bytes "unknown predicate `" ++ (options.head?.getD []) ++ bytes "'")
    return 1
  | some wanted =>
    forEach (if starts.isEmpty then [[Path.dot]] else starts) fun start => do
      match ← findNode start false with
      | .error e =>
        complain "find" (quoted start ++ bytes (": " ++ reason e))
        return false
      | .ok node =>
        if wanted.accepts 0 (lastName start) node then Step.out (start ++ [ascii '\n'])
        for (location, node) in FileTree.descendants node do
          if wanted.accepts location.length (location.getLast?.getD []) node then
            let below := [Path.slash].intercalate location
            Step.out (within start below ++ [ascii '\n'])
        return true

end ThemedShell.Utility
