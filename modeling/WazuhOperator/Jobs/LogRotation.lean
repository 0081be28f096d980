import Mathlib.Data.List.Basic

/-!
# What log rotation deletes

The script of the CronJob runs `find` in each manager pod, once for each path.  The path stands in
the command without quotes, so that a shell reads it again: literal words with blanks between them
become arguments, and nothing is assumed of a text with other characters which have a meaning for
the shell.  An empty path names no directory, but the command gets the root.
-/

namespace WazuhOperator
namespace LogRotation

structure LogRotationSpec where
  retentionDays : Option Int := none
  maxFileSizeMB : Option Int := none
  combinationMode : String := ""
  paths : List (List Char) := []

structure LogRotationCronJobBuilder where
  retentionDays : Int
  maxFileSizeMB : Int
  combinationMode : String
  paths : List (List Char)

/-- The builder as `ReconcileLogRotation` configures it. -/
def builder (spec : LogRotationSpec) : LogRotationCronJobBuilder where
  retentionDays := (spec.retentionDays.filter (0 < ·)).getD 7
  maxFileSizeMB := spec.maxFileSizeMB.getD 0
  combinationMode := if spec.combinationMode ∈ ["or", "and"] then spec.combinationMode else "or"
  paths := if spec.paths = [] then
      ["/var/ossec/logs/alerts/".toList, "/var/ossec/logs/archives/".toList]
    else spec.paths

/-- `strings.TrimSuffix(path, "/")`. -/
def trimSlash (path : List Char) : List Char :=
  if path.getLast? = some '/' then path.dropLast else path

def cleanPath (path : List Char) : List Char := trimSlash path ++ ['/']

/-! ## Shells and `find` -/

def isPlain (letter : Char) : Bool := !" \t\n|&;<>()$`\\\"'*?[\x7b\x7d".toList.contains letter

/-- A word without a character which has a meaning for the shell. -/
def Literal (word : List Char) : Prop :=
  word.all isPlain = true ∧ word.head? ≠ some '#' ∧ word.head? ≠ some '~'
  deriving Decidable

structure Shell where
  /-- The arguments which a text without quotes becomes. -/
  fields : List Char -> List (List Char)
  fields_words : forall words, words ≠ [] -> (∀ word ∈ words, word ≠ [] ∧ Literal word) ->
    fields ([' '].intercalate words) = words

/-- A regular file, with its age in days and its size in units of 1 MiB as `find` compares them. -/
structure LogFile where
  path : List Char
  age : Int
  size : Int

def Below (directory : List Char) (file : LogFile) : Prop :=
  directory ≠ [] ∧ cleanPath directory <+: file.path
  deriving Decidable

namespace LogRotationCronJobBuilder

variable (rotation : LogRotationCronJobBuilder) (shell : Shell)

/-- The tests `-mtime` and `-size`, joined by `-o` unless the mode is `and`. -/
def Matches (file : LogFile) : Prop :=
  let old := rotation.retentionDays < file.age
  let large := rotation.maxFileSizeMB < file.size
  if 0 < rotation.maxFileSizeMB then
    if rotation.combinationMode = "and" then old ∧ large else old ∨ large
  else old
  deriving Decidable

/-- The command for a path deletes the file; `find` starts at the arguments before an option. -/
def Deletes (path : List Char) (file : LogFile) : Prop :=
  ∃ start ∈ (shell.fields (cleanPath path)).takeWhile (fun field => field.head? ≠ some '-'),
    (file.path = start ∨ cleanPath start <+: file.path) ∧ rotation.Matches file

def Confined : Prop :=
  ∀ path ∈ rotation.paths, forall file, rotation.Deletes shell path file ->
    ∃ directory ∈ rotation.paths, Below directory file

def Passed : Prop :=
  ∀ path ∈ rotation.paths, shell.fields (cleanPath path) = [cleanPath path]

end LogRotationCronJobBuilder

variable {path : List Char}

theorem cleanPath_of_ends (ends : path.getLast? = some '/') : cleanPath path = path := by
  rw [cleanPath, trimSlash, if_pos ends]
  exact List.dropLast_append_getLast? _ ends

theorem cleanPath_cleanPath (path : List Char) : cleanPath (cleanPath path) = cleanPath path :=
  cleanPath_of_ends List.getLast?_concat

theorem literal_cleanPath : Literal (cleanPath path) <-> Literal path := by
  by_cases ends : path.getLast? = some '/'
  · rw [cleanPath_of_ends ends]
  · rw [cleanPath, trimSlash, if_neg ends]
    cases path with
    | nil => decide
    | cons => simp [Literal, show isPlain '/' = true by decide]

/-- This shell passes on nothing of a text it does not read as literal words. -/
def Shell.wary : Shell where
  fields text := if ∀ word ∈ text.splitOn ' ', Literal word then text.splitOn ' ' else []
  fields_words words given literal := by
    have apart : ∀ word ∈ words, ' ' ∉ word :=
      fun word member blank =>
        absurd (List.all_eq_true.mp (literal word member).2.1 ' ' blank) (by decide)
    rw [List.splitOn_intercalate ' ' apart given, if_pos fun word member => (literal word member).2]

theorem Shell.fields_cleanPath (shell : Shell) (literal : Literal path) :
    shell.fields (cleanPath path) = [cleanPath path] := by
  have one := shell.fields_words [cleanPath path] (List.cons_ne_nil _ _)
  rw [List.intercalate_singleton] at one
  refine one fun word member => ?_
  rw [List.mem_singleton.mp member]
  exact ⟨by simp [cleanPath], literal_cleanPath.mpr literal⟩

theorem Shell.literal_of_wary (passed : Shell.wary.fields (cleanPath path) = [cleanPath path]) :
    Literal path := by
  rw [← literal_cleanPath]
  simp only [Shell.wary] at passed
  split at passed
  · next literal => exact literal _ (passed ▸ List.mem_singleton_self _)
  · cases passed

theorem eq_root_of_prefix (given : path ≠ []) (within : cleanPath path <+: ['/', 'x']) :
    path = ['/'] := by
  have same : cleanPath path = ['/'] := by
    rw [cleanPath] at within ⊢
    generalize trimSlash path = front at within ⊢
    match front with
    | [] => rfl
    | [_] | _ :: _ :: _ => simp at within
  by_cases ends : path.getLast? = some '/'
  · exact (cleanPath_of_ends ends).symm.trans same
  · rw [cleanPath, trimSlash, if_neg ends] at same
    exact absurd (List.append_left_eq_self.mp same) given

end LogRotation
end WazuhOperator
