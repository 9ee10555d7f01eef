import SqlBinding.SqlArray.Nested

/-!
# Arrays written in one pass

The text of an array and its shape as they come about together: the entries of a level are written
one after the other, and the shape of each is held to that of those before it.
-/

set_option autoImplicit false

namespace SqlBinding.SqlArray.Node

variable {α : Type}

/-- The text and the shape of a level of `count` entries, from the texts of its entries and the
shape that they have, if there are any. -/
def bracketed (delimiter : Char) (count : Nat)
    (entries : List (List Char) × Option (List Nat)) : List Char × List Nat :=
  (braced delimiter entries.1, count :: entries.2.getD [])

mutual

/-- Writes a node, and returns its text and its shape. There is none for an empty sub-array. -/
def write (c : ElementCodec α) : Node α → Except ArrayError (List Char × List Nat)
  | item value => .ok (elementText c.delimiter (c.toElement value), [])
  | nested children =>
    if children.isEmpty then .error .ragged
    else (writeEntries c none children).map (bracketed c.delimiter children.length)

/-- Writes the entries of a level, and returns their texts and the shape that they have; `known` is
that of the entries before. -/
def writeEntries (c : ElementCodec α) : Option (List Nat) → List (Node α) →
    Except ArrayError (List (List Char) × Option (List Nat))
  | known, [] => .ok ([], known)
  | known, node :: nodes =>
    match node.write c with
    | .error e => .error e
    | .ok (text, shape) =>
      if fits known shape then
        (writeEntries c (some shape) nodes).map fun (texts, shape?) => (text :: texts, shape?)
      else .error .ragged

end

/-- Writes one level of an array, and returns its text and its shape. The outermost level may be
empty. -/
def writeLevel (c : ElementCodec α) (nodes : List (Node α)) :
    Except ArrayError (List Char × List Nat) :=
  (writeEntries c none nodes).map (bracketed c.delimiter nodes.length)

end SqlBinding.SqlArray.Node
