import SqlBinding.Text.Basic
import SqlBinding.SqlArray.Element
import SqlBinding.SqlArray.Grammar

/-!
# Arrays of any dimension

An array is a list of nodes, each an element or a sub-array. It has a text exactly when it is
rectangular and no sub-array is empty; `shapeOf?` says whether it is and what its dimensions are.
Reading builds the tree back from the dimensions and the row-major elements.
-/

set_option autoImplicit false

namespace SqlBinding.SqlArray

open Text

/-- One position of an array: an element or a sub-array. -/
inductive Node (α : Type)
  | item (value : α)
  | nested (children : List (Node α))

/-- An array of any dimension. -/
structure Nested (α : Type) where
  items : List (Node α)

namespace Node

variable {α : Type}

mutual

/-- The elements of a node in row-major order. -/
def flat : Node α → List α
  | item value => [value]
  | nested children => flatAll children

/-- The elements of a list of nodes in row-major order. -/
def flatAll : List (Node α) → List α
  | [] => []
  | node :: nodes => node.flat ++ flatAll nodes

end

/-- The shape of a list of nodes with the given shapes, which must agree. -/
def join : List (List Nat) → Option (List Nat)
  | [] => some [0]
  | shape :: shapes =>
    if shapes.all (· == shape) then some ((shapes.length + 1) :: shape) else none

mutual

/-- The dimensions of a node: none for an element. An empty sub-array has no shape. -/
def shape? : Node α → Option (List Nat)
  | item _ => some []
  | nested [] => none
  | nested (child :: children) => (shapes? (child :: children)).bind join

/-- The shapes of all nodes of a list. -/
def shapes? : List (Node α) → Option (List (List Nat))
  | [] => some []
  | node :: nodes =>
    match node.shape?, shapes? nodes with
    | some shape, some shapes => some (shape :: shapes)
    | _, _ => none

end

/-- The dimensions of the array with the given nodes, from the outside in, if it is rectangular and
no sub-array is empty. -/
def shapeOf? (nodes : List (Node α)) : Option (List Nat) := (shapes? nodes).bind join

end Node

/-- Whether a text must be quoted to be told from other things an element may be. -/
def needsQuotes (delimiter : Char) (cs : List Char) : Bool :=
  cs.isEmpty || cs.map Char.toUpper == nullText ||
    cs.any fun c => !isBare delimiter c || c == '\\' || isBlank c

/-- An element as it stands in array text, quoted only where it must be. -/
def elementText (delimiter : Char) : Option (List Char) → List Char
  | none => nullText
  | some cs => if needsQuotes delimiter cs then quoteElement cs else cs

namespace Node

variable {α : Type}

mutual

/-- The text of a node. -/
def text (c : ElementCodec α) : Node α → List Char
  | item value => elementText c.delimiter (c.toElement value)
  | nested children => braced c.delimiter (texts c children)

/-- The texts of the nodes of a list. -/
def texts (c : ElementCodec α) : List (Node α) → List (List Char)
  | [] => []
  | node :: nodes => node.text c :: texts c nodes

end

/-- Makes `count` sub-arrays, each of the values that `make` takes from the front of those left. -/
def buildRows (make : List α → List (Node α) × List α) :
    Nat → List α → List (Node α) × List α
  | 0, values => ([], values)
  | count + 1, values =>
    let (children, afterChildren) := make values
    let (nodes, rest) := buildRows make count afterChildren
    (nested children :: nodes, rest)

/-- Makes the nodes of an array with the given dimensions from row-major values, and returns the
values that are left. -/
def build : List Nat → List α → List (Node α) × List α
  | [], values => ([], values)
  | [n], values => ((values.take n).map item, values.drop n)
  | n :: m :: dims, values => buildRows (build (m :: dims)) n values

end Node

namespace Nested

variable {α : Type}

/-- The array without elements. -/
def empty : Nested α := ⟨[]⟩

/-- The array of one dimension with the given elements. -/
def ofFlat (values : List α) : Nested α := ⟨values.map .item⟩

/-- The elements in row-major order. -/
def flat (a : Nested α) : List α := Node.flatAll a.items

/-- The text of an array, which only a rectangular one has. -/
def encode (c : ElementCodec α) (a : Nested α) : Except ArrayError (List Char) :=
  match Node.shapeOf? a.items with
  | some _ => .ok (braced c.delimiter (Node.texts c a.items))
  | none => .error .ragged

/-- Reads elements, the first of which has the given index. -/
def readElements (c : ElementCodec α) : Nat → Elements → Except ArrayError (List α)
  | _, [] => .ok []
  | index, element :: rest =>
    match c.fromElement element with
    | .error fault => .error (fault.atIndex index)
    | .ok value => (readElements c (index + 1) rest).map (value :: ·)

/-- Reads the text of an array of any dimension. -/
def decode (c : ElementCodec α) (src : List Char) : Except ArrayError (Nested α) :=
  match parse c.delimiter src with
  | .error e => .error e
  | .ok (dims, elements) =>
    (readElements c 0 elements).map fun values => ⟨(Node.build dims values).1⟩

end Nested

end SqlBinding.SqlArray
