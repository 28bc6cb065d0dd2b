import ReleaseNotes.Markup.Edit

/-!
# Moving nodes

A node that already stands somewhere is put under another one. It takes the run of text after it
along. Places after its old one shift (`Place.afterRemoval`), and places in it move with it
(`Place.afterMove`), so that whoever holds a place can follow it.
-/

namespace ReleaseNotes.Markup

/-- Content without the child with a number and the run of text after it. -/
def withoutChild : List Node → Nat → List Node
  | [], _ => []
  | n :: rest, i =>
    if n.isText then n :: withoutChild rest i
    else match i with
      | 0 => rest.dropWhile Node.isText
      | i + 1 => n :: withoutChild rest i

/-- The child at a place with the run of text after it. -/
def takeAt (content : List Node) : Place → List Node
  | [] => []
  | [i] => childWithTail content i
  | i :: j :: rest =>
    match childAt? content i with
    | some n => takeAt n.content (j :: rest)
    | none => []

/-- Content without the child at a place and the run of text after it. -/
def removeAt (content : List Node) : Place → List Node
  | [] => content
  | [i] => withoutChild content i
  | i :: j :: rest =>
    changeChild (Node.mapContent fun inner => removeAt inner (j :: rest)) content i

/-- Where a place lies once the node at `gone`, which it does not lie in, is taken away. -/
def Place.afterRemoval : Place → Place → Place
  | [i], j :: rest => (if i < j then j - 1 else j) :: rest
  | i :: gone, j :: rest => if i == j then j :: Place.afterRemoval gone rest else j :: rest
  | _, p => p

/-- Where a place lies once the node at `gone` has moved to `target`. -/
def Place.afterMove (gone target p : Place) : Place :=
  if gone.isPrefixOf p then target ++ p.drop gone.length else Place.afterRemoval gone p

/-- Moves a node to the end of the content of an element: the place where it stands then. A node
cannot come to stand in itself. -/
def moveNode (here item : Place) : Editing Place := do
  let _ ← nodeHere item
  let holder ← nodeHere here
  if item.isPrefixOf here then throw .ownFamily
  else match holder with
    | .element tag _ =>
      let content ← get
      let around := tag :: tagsAround content here
      let moved := (takeAt content item).map (Node.grafted around)
      let content := removeAt content item
      let here := Place.afterRemoval item here
      let count := ((nodeAt? content here).map fun n => childCount n.content).getD 0
      set (changeAt (Node.mapContent (· ++ moved)) content here)
      return here ++ [count]
    | _ => throw .childless

end ReleaseNotes.Markup
