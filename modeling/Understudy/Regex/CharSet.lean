import Understudy.Regex.CategoryTable
import Understudy.Regex.DerivedPropertyTable
import Understudy.Regex.FoldTable
import Understudy.Regex.PropertyTable
import Understudy.Regex.ScriptTable

/-!
# Sets of characters

Sets built from runs of code points by complement, union and intersection, and closure of a set
under simple case folding.  The named sets are the general categories, the scripts and the
yes-or-no properties of characters, looked up under names in which case, spaces, hyphens and
underscores do not matter.
-/

namespace Understudy.Regex

/-- The code points `first`, `first + step`, …, `last`. -/
structure Run where
  first : Nat
  last : Nat
  step : Nat
  deriving DecidableEq, Repr

/-- Whether a code point lies in the run. -/
def Run.holds (run : Run) (point : Nat) : Bool :=
  run.first ≤ point && point ≤ run.last && (point - run.first) % run.step == 0

/-- A set of characters. -/
inductive CharSet where
  | runs (parts : List Run)
  | complement (set : CharSet)
  | union (first second : CharSet)
  | intersection (first second : CharSet)
  | folded (set : CharSet)
  deriving Inhabited, Repr

/-- The code point that simple case folding gives. -/
def foldPoint (point : Nat) : Nat :=
  ((point : Int) + Text.shiftOf foldShifts point).toNat

/-- All code points with the same folding. -/
def sameFold (point : Nat) : List Nat :=
  let target := foldPoint point
  let sources := foldShifts.map fun shift => ((target : Int) - shift.delta).toNat
  target :: sources.filter fun source => foldPoint source == target

namespace CharSet

/-- Whether a code point belongs to the set. -/
def holds : CharSet → Nat → Bool
  | .runs parts, point => parts.any fun run => run.holds point
  | .complement set, point => !set.holds point
  | .union first second, point => first.holds point || second.holds point
  | .intersection first second, point => first.holds point && second.holds point
  | .folded set, point => (sameFold point).any fun other => set.holds other

/-- The set without elements. -/
def empty : CharSet := .runs []

/-- The set of all characters. -/
def all : CharSet := .complement empty

/-- The set of one character. -/
def single (c : Char) : CharSet := .runs [⟨c.toNat, c.toNat, 1⟩]

/-- The characters between two, both included. -/
def between (first last : Char) : CharSet := .runs [⟨first.toNat, last.toNat, 1⟩]

/-- The union of several sets. -/
def unions : List CharSet → CharSet
  | [] => empty
  | [set] => set
  | set :: sets => .union set (unions sets)

/-- The elements of the first set that the second lacks. -/
def difference (first second : CharSet) : CharSet :=
  .intersection first (.complement second)

/-- The elements of exactly one of the sets. -/
def symmetricDifference (first second : CharSet) : CharSet :=
  .union (difference first second) (difference second first)

/-- The number of runs in the description of the set. -/
def size : CharSet → Nat
  | .runs parts => parts.length
  | .complement set => set.size + 1
  | .union first second => first.size + second.size
  | .intersection first second => first.size + second.size
  | .folded set => 2 * set.size

end CharSet

/-- The value of a hexadecimal number in capital digits. -/
def hexNumber (digits : List Char) : Nat :=
  digits.foldl
    (fun value c =>
      value * 16 + if c.isDigit then c.toNat - '0'.toNat else c.toNat - 'A'.toNat + 10) 0

/-- The characters up to a separator, and those behind it. -/
def cutAt (separator : Char) (characters : List Char) : List Char × List Char :=
  (characters.takeWhile (· != separator), (characters.dropWhile (· != separator)).drop 1)

/-- A run as the tables write it. -/
def readRun (characters : List Char) : Run :=
  let (range, step) := cutAt '/' characters
  let (first, last) := cutAt '-' range
  let start := hexNumber first
  { first := start
    last := if last.isEmpty then start else hexNumber last
    step := if step.isEmpty then 1 else hexNumber step }

/-- The runs of a row of a table, by the characters still to come and the current word, last
character first. -/
def readRunsFrom (word : List Char) : List Char → List Run
  | [] => if word.isEmpty then [] else [readRun word.reverse]
  | ' ' :: rest =>
      if word.isEmpty then readRunsFrom [] rest else readRun word.reverse :: readRunsFrom [] rest
  | c :: rest => readRunsFrom (c :: word) rest

/-- The set that the rows of a table entry describe. -/
def readSet (rows : List String) : CharSet :=
  .runs (rows.flatMap fun row => readRunsFrom [] row.toList)

/-- The name without the characters that do not matter in names, in lower case. -/
def normalizeName (name : String) : String :=
  let letters := (name.toList.filter fun c => !(c = ' ' || c = '_' || c = '-')).map Char.toLower
  match letters with
  | 'i' :: 's' :: 'c' :: [] => "isc"
  | 'i' :: 's' :: rest => String.ofList rest
  | other => String.ofList other

/-- The entry filed under one of several names. -/
def fileUnder? (table : List (String × List String)) (name : String) : Option CharSet :=
  (table.find? fun entry => (entry.1.splitOn " ").contains name).map fun entry => readSet entry.2

/-- The short names of the categories that a category name stands for. -/
def categoryMembers? (name : String) : Option (List String) :=
  match name with
  | "l" | "letter" => some ["lu", "ll", "lt", "lm", "lo"]
  | "lc" | "casedletter" => some ["lu", "ll", "lt"]
  | "lu" | "uppercaseletter" => some ["lu"]
  | "ll" | "lowercaseletter" => some ["ll"]
  | "lt" | "titlecaseletter" => some ["lt"]
  | "lm" | "modifierletter" => some ["lm"]
  | "lo" | "otherletter" => some ["lo"]
  | "m" | "mark" | "combiningmark" => some ["mn", "mc", "me"]
  | "mn" | "nonspacingmark" => some ["mn"]
  | "mc" | "spacingmark" => some ["mc"]
  | "me" | "enclosingmark" => some ["me"]
  | "n" | "number" => some ["nd", "nl", "no"]
  | "nd" | "decimalnumber" | "digit" => some ["nd"]
  | "nl" | "letternumber" => some ["nl"]
  | "no" | "othernumber" => some ["no"]
  | "p" | "punctuation" | "punct" => some ["pc", "pd", "ps", "pe", "pi", "pf", "po"]
  | "pc" | "connectorpunctuation" => some ["pc"]
  | "pd" | "dashpunctuation" => some ["pd"]
  | "ps" | "openpunctuation" => some ["ps"]
  | "pe" | "closepunctuation" => some ["pe"]
  | "pi" | "initialpunctuation" => some ["pi"]
  | "pf" | "finalpunctuation" => some ["pf"]
  | "po" | "otherpunctuation" => some ["po"]
  | "s" | "symbol" => some ["sm", "sc", "sk", "so"]
  | "sm" | "mathsymbol" => some ["sm"]
  | "sc" | "currencysymbol" => some ["sc"]
  | "sk" | "modifiersymbol" => some ["sk"]
  | "so" | "othersymbol" => some ["so"]
  | "z" | "separator" => some ["zs", "zl", "zp"]
  | "zs" | "spaceseparator" => some ["zs"]
  | "zl" | "lineseparator" => some ["zl"]
  | "zp" | "paragraphseparator" => some ["zp"]
  | "cc" | "control" | "cntrl" => some ["cc"]
  | "cf" | "format" => some ["cf"]
  | "co" | "privateuse" => some ["co"]
  | _ => none

/-- All assigned characters. -/
def assigned : CharSet :=
  .unions (categoryRuns.map fun entry => readSet entry.2)

/-- The set of a general category. -/
def category? (name : String) : Option CharSet :=
  match name with
  | "any" => some .all
  | "ascii" => some (.runs [⟨0, 0x7F, 1⟩])
  | "assigned" => some assigned
  | "cn" | "unassigned" => some (.complement assigned)
  | "c" | "other" =>
      some (.union (.complement assigned)
        (.unions (["cc", "cf", "co"].filterMap (fileUnder? categoryRuns))))
  | other =>
      (categoryMembers? other).map fun members =>
        .unions (members.filterMap (fileUnder? categoryRuns))

/-- The set of a script. -/
def script? (name : String) : Option CharSet :=
  (fileUnder? scriptRunsLow name).orElse fun _ => fileUnder? scriptRunsHigh name

/-- The set of a property.  Three names that abbreviate a category as well mean the
category. -/
def property? (name : String) : Option CharSet :=
  if name = "cf" ∨ name = "sc" ∨ name = "lc" then none
  else (fileUnder? propertyRuns name).orElse fun _ => fileUnder? derivedPropertyRuns name

/-- The set that a name alone means: a property, a category or a script. -/
def namedSet? (name : String) : Option CharSet :=
  let key := normalizeName name
  ((property? key).orElse fun _ => category? key).orElse fun _ => script? key

/-- The set of the characters for which a property with several values has the given value. -/
def valuedSet? (property value : String) : Option CharSet :=
  match normalizeName property with
  | "gc" | "generalcategory" => category? (normalizeName value)
  | "sc" | "script" | "scx" | "scriptextensions" => script? (normalizeName value)
  | _ => none

/-- The decimal digits of all scripts. -/
def digitSet : CharSet :=
  (category? "nd").getD .empty

/-- White space of all scripts. -/
def spaceSet : CharSet :=
  (property? "space").getD .empty

/-- The characters of words: letters, marks, digits, connectors and joiners. -/
def wordSet : CharSet :=
  .unions
    ([property? "alphabetic", category? "m", category? "nd", category? "pc",
      property? "joincontrol"].filterMap id)

/-- The decimal digits of ASCII. -/
def asciiDigitSet : CharSet := .between '0' '9'

/-- White space of ASCII. -/
def asciiSpaceSet : CharSet := .runs [⟨9, 13, 1⟩, ⟨32, 32, 1⟩]

/-- The characters of words in ASCII. -/
def asciiWordSet : CharSet :=
  .unions [.between '0' '9', .between 'A' 'Z', .single '_', .between 'a' 'z']

/-- The set of a bracketed class name of ASCII. -/
def asciiClass? : String → Option CharSet
  | "alnum" => some (.unions [.between '0' '9', .between 'A' 'Z', .between 'a' 'z'])
  | "alpha" => some (.unions [.between 'A' 'Z', .between 'a' 'z'])
  | "ascii" => some (.runs [⟨0, 0x7F, 1⟩])
  | "blank" => some (.unions [.single '\t', .single ' '])
  | "cntrl" => some (.runs [⟨0, 0x1F, 1⟩, ⟨0x7F, 0x7F, 1⟩])
  | "digit" => some asciiDigitSet
  | "graph" => some (.between '!' '~')
  | "lower" => some (.between 'a' 'z')
  | "print" => some (.between ' ' '~')
  | "punct" =>
      some (.unions [.between '!' '/', .between ':' '@', .between '[' '\x60', .between '{' '~'])
  | "space" => some asciiSpaceSet
  | "upper" => some (.between 'A' 'Z')
  | "word" => some asciiWordSet
  | "xdigit" => some (.unions [.between '0' '9', .between 'A' 'F', .between 'a' 'f'])
  | _ => none

end Understudy.Regex
