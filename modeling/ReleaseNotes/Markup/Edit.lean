import ReleaseNotes.Markup.Graft
import ReleaseNotes.Markup.Place
import ReleaseNotes.Text.Blank

/-!
# Editing

Changes to some content, each at a place in it. All of them add: text at the end of what
a node holds (`addText`), a node at the end of an element's content (`addNode`), or a copy
of all that another node holds (`addCopy`, `addCopyOf`).

A change that fails may have done part of its work, and that part stays. In particular, a
text that a document cannot hold takes the run of text with it that it would have grown.
-/

namespace ReleaseNotes.Markup

/-- Why a change cannot be made. -/
inductive EditFault where
  /-- There is no node at the place. -/
  | noNode
  /-- There is no node to put another one under, or to copy from. -/
  | noHolder
  /-- A document cannot hold the text. -/
  | illegalText
  /-- A number has more digits than can be written. -/
  | oversized
  /-- The node cannot have children. -/
  | childless
  /-- The text of the node cannot be changed. -/
  | fixedText
  /-- The node would come to stand below itself. -/
  | ownFamily
  deriving DecidableEq, Repr

/-- A change to some content. What it has done before it fails stays done. -/
abbrev Editing (α : Type) := ExceptT EditFault (StateM (List Node)) α

/-- The node at a place. -/
def nodeHere (here : Place) : Editing Node := do
  match nodeAt? (← get) here with
  | some n => return n
  | none => throw .noNode

/-- Changes the node at a place. -/
def changeHere (here : Place) (f : Node → Node) : Editing Unit :=
  modify fun content => changeAt f content here

/-- Content without the runs of text at its end. -/
def dropLastText (content : List Node) : List Node :=
  Text.dropWhileEnd Node.isText content

/-- Adds text at the end of what a node holds. An empty text changes nothing. -/
def addText (here : Place) (s : String) : Editing Unit := do
  if s.isEmpty then return
  match ← nodeHere here with
  | .element _ _ =>
    if isLegalText s then changeHere here (Node.mapContent (appendText · s))
    else
      changeHere here (Node.mapContent dropLastText)
      throw .illegalText
  | .comment t =>
    if isLegalText s then changeHere here fun _ => .comment (t ++ s) else throw .illegalText
  | .instruction target data =>
    if isLegalText s then changeHere here fun _ => .instruction target (data ++ s)
    else throw .illegalText
  | .text _ | .reference _ => throw .fixedText

/-- Adds a node at the end of an element's content: the place where it stands then. -/
def addNode (here : Place) (n : Node) : Editing Place := do
  match ← nodeHere here with
  | .element _ content =>
    changeHere here (Node.mapContent (· ++ [n]))
    return here ++ [childCount content]
  | _ => throw .childless

/-- Adds some content, copied, at the end of an element's content. -/
def addCopied (here : Place) (copied : List Node) : Editing Unit := do
  match nodeAt? (← get) here with
  | some (.element tag _) =>
    let around := tag :: tagsAround (← get) here
    changeHere here (Node.mapContent (appendContent · (copiedContent around copied)))
  | some _ => if copied.isEmpty then return else throw .childless
  | none => if copied.isEmpty then return else throw .noHolder

/-- Adds a copy of all that a node of another tree holds to what a node holds. -/
def addCopy (here : Place) (source : Node) : Editing Unit := do
  match nodeAt? (← get) here with
  | some (.element _ _) => addCopied here source.copySource
  | _ =>
    addText here source.leadingText
    addCopied here source.children

/-- Adds copies of the children with numbers from `i` on of a node of the same tree, one after
the other. -/
def addChildrenOf (here source : Place) (i : Nat) : Nat → Editing Unit
  | 0 => return
  | left + 1 => do
    addCopied here (childWithTail (← nodeHere source).content i)
    addChildrenOf here source (i + 1) left

/-- Adds a copy of all that a node of the same content holds to what a node holds. -/
def addCopyOf (here source : Place) : Editing Unit := do
  match nodeAt? (← get) source with
  | some n => do
    addText here n.leadingText
    addChildrenOf here source 0 (childCount n.content)
  | none => throw .noHolder

end ReleaseNotes.Markup
