import Understudy.Yaml.Node

/-!
# Values of YAML scalars

What a scalar is as a null, a truth value, a number or a text.  Only an untagged plain scalar is
anything but a text, and every scalar but a null is a text.
-/

namespace Understudy.Yaml

/-- Whether a plain text is the null. -/
def isNullText (text : String) : Bool :=
  text ∈ ["", "~", "null", "Null", "NULL"]

/-- The truth value of a plain text. -/
def booleanOfText? (text : String) : Option Bool :=
  if text ∈ ["true", "True", "TRUE"] then some true
  else if text ∈ ["false", "False", "FALSE"] then some false
  else none

/-- The value of a digit in a base up to sixteen. -/
def digitIn? (base : Nat) (c : Char) : Option Nat :=
  (Text.hexValue? c).filter (· < base)

/-- The number that digits of a base write; there is at least one. -/
def numberIn? (base : Nat) (digits : List Char) : Option Nat :=
  if digits.isEmpty then none
  else digits.foldlM (fun number digit => (number * base + ·) <$> digitIn? base digit) 0

/-- The characters behind one plus sign. -/
def dropPlus : List Char → List Char
  | '+' :: rest => rest
  | characters => characters

/-- The number of a plain text without a minus sign.  A decimal number has no leading zeros. -/
def naturalOfText? (text : String) : Option Nat :=
  match dropPlus text.toList with
  | '0' :: 'x' :: digits => numberIn? 16 digits
  | '0' :: 'o' :: digits => numberIn? 8 digits
  | '0' :: 'b' :: digits => numberIn? 2 digits
  | ['0'] => some 0
  | '0' :: _ => none
  | digits => numberIn? 10 digits

namespace Node

/-- The text of an untagged plain scalar. -/
def plainText? : Node → Option String
  | .scalar none true text => some text
  | _ => none

/-- Whether the node is the null. -/
def isNull (node : Node) : Bool :=
  node.plainText?.any isNullText

/-- The truth value of a node. -/
def boolean? (node : Node) : Option Bool :=
  node.plainText?.bind booleanOfText?

/-- The number of a node. -/
def natural? (node : Node) : Option Nat :=
  node.plainText?.bind naturalOfText?

/-- The text of a node. -/
def text? (node : Node) : Option String :=
  match node with
  | .scalar _ _ text => if node.isNull then none else some text
  | _ => none

/-- The texts of a list. -/
def texts? : Node → Option (List String)
  | .sequence _ items => items.mapM text?
  | _ => none

/-- The key of an entry: the text of any scalar. -/
def keyText? : Node → Option String
  | .scalar _ _ text => some text
  | _ => none

/-- The entries of a section under the texts of their keys; a null is an empty section. -/
def section? (node : Node) : Option (List (String × Node)) :=
  match node with
  | .mapping _ entries => entries.mapM fun entry => (·, entry.2) <$> keyText? entry.1
  | _ => if node.isNull then some [] else none

end Node

/-- The value of an entry with a default: the default where the entry is missing, nothing where
it occurs twice or has no such value. -/
def entry? {α : Type} (entries : List (String × Node)) (name : String) (read : Node → Option α)
    (default : α) : Option α :=
  match entries.filter fun entry => entry.1 = name with
  | [] => some default
  | [entry] => read entry.2
  | _ => none

/-- The reader of an optional value: a null is no value. -/
def optional {α : Type} (read : Node → Option α) (node : Node) : Option (Option α) :=
  if node.isNull then some none else some <$> read node

end Understudy.Yaml
