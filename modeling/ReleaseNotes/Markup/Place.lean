import ReleaseNotes.Markup.Node

/-!
# Places

Where a node stands in some content: the number of the child to take at each level,
counting all nodes but runs of text. Adding text, or adding nodes at the end of some
content, changes no place that is already taken, so a place that was given out stays
good for as long as things are only added.
-/

namespace ReleaseNotes.Markup

/-- Where a node stands: the number of the child to take at each level, outermost
first. -/
abbrev Place := List Nat

/-- The child with a number. -/
def childAt? : List Node → Nat → Option Node
  | [], _ => none
  | n :: rest, i =>
    if n.isText then childAt? rest i
    else match i with
      | 0 => some n
      | i + 1 => childAt? rest i

/-- The child with a number and the run of text after it. -/
def childWithTail : List Node → Nat → List Node
  | [], _ => []
  | n :: rest, i =>
    if n.isText then childWithTail rest i
    else match i with
      | 0 => n :: rest.takeWhile Node.isText
      | i + 1 => childWithTail rest i

/-- Content with the child with a number changed. -/
def changeChild (f : Node → Node) : List Node → Nat → List Node
  | [], _ => []
  | n :: rest, i =>
    if n.isText then n :: changeChild f rest i
    else match i with
      | 0 => f n :: rest
      | i + 1 => n :: changeChild f rest i

/-- How many children some content has. -/
def childCount (content : List Node) : Nat :=
  content.countP (!·.isText)

/-- A node with its content changed; a node that is no element stays as it is. -/
def Node.mapContent (f : List Node → List Node) : Node → Node
  | .element tag content => .element tag (f content)
  | n => n

/-- The node at a place. There is none at the empty place. -/
def nodeAt? (content : List Node) : Place → Option Node
  | [] => none
  | [i] => childAt? content i
  | i :: j :: rest => (childAt? content i).bind fun n => nodeAt? n.content (j :: rest)

/-- Content with the node at a place changed. -/
def changeAt (f : Node → Node) (content : List Node) : Place → List Node
  | [] => content
  | [i] => changeChild f content i
  | i :: j :: rest => changeChild (Node.mapContent fun inner => changeAt f inner (j :: rest)) content i

/-- The tags of the elements around a place, nearest first. -/
def tagsAround (content : List Node) : Place → List Tag
  | [] => []
  | [_] => []
  | i :: j :: rest =>
    match childAt? content i with
    | some (.element tag inner) => tagsAround inner (j :: rest) ++ [tag]
    | _ => []

mutual

/-- A node that stands at `here` and all children below it, in document order, each with
its place. -/
def Node.placed (here : Place) : Node → List (Place × Node)
  | .element tag content => (here, .element tag content) :: placedFrom here 0 content
  | n => [(here, n)]

/-- The children of some content and all below them, in document order, each with its
place. The content is that of the node at `here`, from the child with number `i` on. -/
def placedFrom (here : Place) (i : Nat) : List Node → List (Place × Node)
  | [] => []
  | .text _ :: rest => placedFrom here i rest
  | n :: rest => n.placed (here ++ [i]) ++ placedFrom here (i + 1) rest

end

/-- The places of the elements below a place that have this local name, in document
order. -/
def placesBelow (content : List Node) (here : Place) (label : String) : List Place :=
  match nodeAt? content here with
  | some n => ((placedFrom here 0 n.content).filter fun e => e.2.isNamed label).map Prod.fst
  | none => []

/-- The place of the next sibling of a node that stands at a place. -/
def Place.next : Place → Place
  | [] => []
  | [i] => [i + 1]
  | i :: rest => i :: Place.next rest

end ReleaseNotes.Markup
