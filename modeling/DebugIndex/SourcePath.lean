import DebugIndex.FileSystem
import DebugIndex.Value.Text

/-!
# Source paths

Where the source file of a compilation unit is to be found.  Separators are
rewritten to those of the host, a drive directory gets its letter, and steps to
a parent directory are taken out together with the directory that they leave.
-/

namespace DebugIndex
namespace SourcePath

/-- The index at which one list first occurs in another. -/
def find? (needle : List Char) : List Char → Option Nat
  | [] => if needle.isEmpty then some 0 else none
  | character :: rest =>
      if needle.isPrefixOf (character :: rest) then some 0
      else (find? needle rest).map (· + 1)

def findLast? (needle : List Char) : List Char → Option Nat
  | [] => if needle.isEmpty then some 0 else none
  | character :: rest =>
      match findLast? needle rest with
      | some index => some (index + 1)
      | none => if needle.isPrefixOf (character :: rest) then some 0 else none

theorem find?_add_length_le {needle text : List Char} {index : Nat}
    (found : find? needle text = some index) : index + needle.length ≤ text.length := by
  induction text generalizing index with
  | nil =>
      cases needle with
      | nil =>
          obtain rfl : 0 = index := Option.some.inj found
          exact Nat.le_refl 0
      | cons => simp [find?] at found
  | cons character rest ih =>
      unfold find? at found
      split at found
      · rename_i starts
        obtain rfl := Option.some.inj found
        have := (List.isPrefixOf_iff_prefix.mp starts).length_le
        omega
      · obtain ⟨earlier, atEarlier, rfl⟩ := Option.map_eq_some_iff.mp found
        have := ih atEarlier
        simp only [List.length_cons]
        omega

theorem findLast?_le_length {needle text : List Char} {index : Nat}
    (found : findLast? needle text = some index) : index ≤ text.length := by
  induction text generalizing index with
  | nil =>
      cases needle <;> simp_all [findLast?]
  | cons character rest ih =>
      unfold findLast? at found
      split at found
      · rename_i atLater
        have := ih atLater
        simp_all
        omega
      · split at found
        · obtain rfl := Option.some.inj found
          omega
        · simp at found

/-- Every occurrence of a character replaced by a text. -/
def replaceAll (old : Char) (new : List Char) (text : List Char) : List Char :=
  text.flatMap fun character => if character = old then new else [character]

def conform (separator path : List Char) : List Char :=
  if separator = ['\\'] then replaceAll '/' ['\\'] path else replaceAll '\\' separator path

def driveMark : List Char := "/cygdrive/".toList

/-- A directory below the drive mark loses the mark, and gets a colon behind the
drive letter if it starts with a lower-case letter of its own. -/
def withDriveLetter (directory : List Char) : List Char :=
  if driveMark.isPrefixOf directory then
    match directory.drop (driveMark.length - 1) with
    | '/' :: letter :: '/' :: rest =>
        if 'a' ≤ letter ∧ letter ≤ 'z' then letter :: ':' :: '/' :: rest
        else '/' :: letter :: '/' :: rest
    | remaining => remaining
  else directory

/-- The number of characters up to the first character of an occurrence, that one
included; none of them if there is no occurrence. -/
def upTo (occurrence : Option Nat) : Nat :=
  (occurrence.map (· + 1)).getD 0

/-- How many characters stay in front of a step to the parent directory that
starts at an index: everything up to the separator before the directory that is
left.  With `\` as separator the colon of a drive bounds that directory too. -/
def kept (separator path : List Char) (index : Nat) : Nat :=
  let before := path.take index
  if separator = ['\\'] then
    max (upTo (findLast? separator before)) (upTo (findLast? [':'] before))
  else upTo (findLast? separator before)

def parentStep (separator : List Char) : List Char :=
  separator ++ ['.', '.'] ++ separator

/-- The mark that stands for the current directory between two separators of a `\` host. -/
def currentStep : List Char := ['\\', '.', '\\']

def doubleSeparator : List Char := ['\\', '\\']

/-- A path with the first occurrence of a mark replaced by one separator of a `\` host. -/
def fold? (mark path : List Char) : Option (List Char) :=
  (find? mark path).map fun index =>
    path.take index ++ '\\' :: path.drop (index + mark.length)

/-- Take out the first step to a parent directory with the directory that it
leaves.  With `\` as separator and no such step, fold the first step to the
current directory, or else the first doubled separator. -/
def collapseOnce? (separator path : List Char) : Option (List Char) :=
  match find? (parentStep separator) path with
  | some index =>
      some (path.take (kept separator path index) ++
        path.drop (index + (parentStep separator).length))
  | none =>
      if separator = ['\\'] then (fold? currentStep path).or (fold? doubleSeparator path)
      else none

theorem upTo_findLast?_le (needle path : List Char) (index : Nat) :
    upTo (findLast? needle (path.take index)) ≤ index + 1 := by
  cases found : findLast? needle (path.take index) with
  | none => simp [upTo]
  | some start =>
      have := findLast?_le_length found
      simp only [List.length_take] at this
      simp only [upTo, Option.map_some, Option.getD_some]
      omega

theorem kept_le (separator path : List Char) (index : Nat) :
    kept separator path index ≤ index + 1 := by
  unfold kept
  split
  · exact Nat.max_le.mpr ⟨upTo_findLast?_le _ _ _, upTo_findLast?_le _ _ _⟩
  · exact upTo_findLast?_le _ _ _

theorem length_lt_of_fold? {mark path shorter : List Char} (long : 2 ≤ mark.length)
    (folded : fold? mark path = some shorter) : shorter.length < path.length := by
  obtain ⟨index, found, rfl⟩ := Option.map_eq_some_iff.mp folded
  have fits := find?_add_length_le found
  simp only [List.length_append, List.length_take, List.length_cons, List.length_drop]
  omega

theorem length_lt_of_collapseOnce? {separator path shorter : List Char}
    (collapsed : collapseOnce? separator path = some shorter) :
    shorter.length < path.length := by
  unfold collapseOnce? at collapsed
  split at collapsed
  · rename_i index found
    have fits := find?_add_length_le found
    have bound := kept_le separator path index
    obtain rfl := Option.some.inj collapsed
    simp only [parentStep, List.length_append, List.length_cons, List.length_nil,
      List.length_take, List.length_drop] at fits ⊢
    omega
  · split at collapsed
    · rcases Option.or_eq_some_iff.mp collapsed with folded | ⟨_, folded⟩
      · exact length_lt_of_fold? (by decide) folded
      · exact length_lt_of_fold? (by decide) folded
    · simp at collapsed

/-- Take out and fold steps until none is left. -/
def collapse (separator path : List Char) : List Char :=
  match _collapsed : collapseOnce? separator path with
  | some shorter => collapse separator shorter
  | none => path
termination_by path.length
decreasing_by exact length_lt_of_collapseOnce? ‹_›

/-- The first search path under which a file can *not* be opened.  None when it
can be opened under all of them. -/
def probe? (files : FileSystem) (separator : List Char) (filename : String)
    (searchPaths : List Value) : Option Value :=
  searchPaths.find? fun searchPath =>
    !(files.openFile (searchPath.plain ++ String.ofList separator ++ filename)).isOk

/-- Where a source file lies: its directory, its name and its full path. -/
structure Location where
  directory : Value
  filename : String
  fullPath : String

/-- The directory that a unit's source is looked for in. -/
def directoryOf (files : FileSystem) (separator : List Char) (filename : String)
    (directory : Option String) (searchPaths : List Value) : Value :=
  match directory with
  | some known => .text (String.ofList (withDriveLetter known.toList))
  | none => (probe? files separator filename searchPaths).getD (.text ".")

/-- Whether a name begins with a drive letter, or any other character, and a colon. -/
def hasDrive : List Char → Bool
  | _ :: ':' :: _ => true
  | _ => false

/-- The full path of a file name in a directory. -/
def join (separator : List Char) (directory filename : List Char) : List Char :=
  let whole := if hasDrive filename then filename else directory ++ separator ++ filename
  collapse separator (conform separator whole)

/-- Work out where the source file of a unit lies from the unit's name and
directory and the search paths. -/
def locate (files : FileSystem) (separator : List Char) (filename directory : Option String)
    (searchPaths : List Value) : Location :=
  let name := filename.getD ""
  let found := directoryOf files separator name directory searchPaths
  let conformed := conform separator name.toList
  { directory := found
    filename := String.ofList conformed
    fullPath := String.ofList (join separator found.plain.toList conformed) }

end SourcePath
end DebugIndex
