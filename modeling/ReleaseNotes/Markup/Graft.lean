import ReleaseNotes.Markup.Document
import ReleaseNotes.Markup.Xml

/-!
# Copying and grafting

A node that is taken out of one tree and put into another keeps its names and their
namespaces, but not always its declarations.

* A copy makes the declarations that it needs and does not contain, on its topmost
  element (`Node.copied`).
* A node that is put under an element gives up every declaration of a namespace that
  is declared around it already, and uses the declaration it finds there
  (`Node.grafted`).

A copy also forgets what the references in its attributes stand for: that is known
only in the document that declares them.
-/

namespace ReleaseNotes.Markup

/-! ### Copies -/

/-- The namespaces that the names of a tag are in, in order. -/
def Tag.spaces (t : Tag) : List Namespace :=
  t.name.space?.toList ++ t.attributes.filterMap (·.name.space?)

/-- Adds to `found` the namespaces of `used` whose prefixes are neither declared in
`bound` nor added before. -/
def addLacking (bound : List (Option String)) (found used : List Namespace) : List Namespace :=
  used.foldl
    (fun found n =>
      if n.short? == some "xml" || bound.contains n.short? || found.any (·.short? == n.short?) then
        found
      else found ++ [n])
    found

mutual

/-- Adds to `found` the namespaces that a node uses and that are declared neither in it
nor in `bound`. -/
def Node.lacking (bound : List (Option String)) (found : List Namespace) : Node → List Namespace
  | .element tag content =>
    let bound := tag.declared.map Namespace.short? ++ bound
    lackingAll bound (addLacking bound found tag.spaces) content
  | _ => found

/-- Adds to `found` the namespaces that some content lacks. -/
def lackingAll (bound : List (Option String)) (found : List Namespace) :
    List Node → List Namespace
  | [] => found
  | n :: rest => lackingAll bound (n.lacking bound found) rest

end

/-- An attribute that has forgotten what its references stand for. -/
def Attribute.copied (a : Attribute) : Attribute :=
  ⟨a.name, a.pieces.map fun piece =>
    match piece with
    | .chars s => .chars s
    | .reference name _ => .reference name ""⟩

mutual

/-- A node whose attributes have forgotten what their references stand for. -/
def Node.forgetful : Node → Node
  | .element tag content =>
    .element ⟨tag.name, tag.declared, tag.attributes.map Attribute.copied⟩ (forgetfulAll content)
  | .text s => .text s
  | .comment s => .comment s
  | .instruction target data => .instruction target data
  | .reference name => .reference name

/-- Content whose attributes have forgotten what their references stand for. -/
def forgetfulAll : List Node → List Node
  | [] => []
  | n :: rest => n.forgetful :: forgetfulAll rest

end

/-- A copy of a node that can stand by itself. -/
def Node.copied (n : Node) : Node :=
  let lacking := n.lacking [] []
  match n.forgetful with
  | .element tag content => .element ⟨tag.name, tag.declared ++ lacking, tag.attributes⟩ content
  | other => other

/-! ### Grafts -/

/-- The nearest declaration of a namespace that no nearer declaration of its prefix
hides, in a chain of tags, nearest first. If `named` holds, it must have a prefix. -/
def declaring? (named : Bool) (uri : String) (hidden : List (Option String)) :
    List Tag → Option Namespace
  | [] => if uri == xmlUri then some xmlNamespace else none
  | t :: outer =>
    let fits (n : Namespace) : Bool :=
      n.uri == uri && !hidden.contains n.short? && (!named || n.short?.isSome)
    match t.declared.find? fits with
    | some n => some n
    | none => declaring? named uri (t.declared.map Namespace.short? ++ hidden) outer

/-- What a graft has come to: the declarations added to its topmost element, and the
topmost element's tag once it is settled. -/
structure Graft where
  /-- The tags around the place of the graft, nearest first. -/
  around : List Tag
  /-- The topmost element's tag, once known. -/
  top? : Option Tag
  /-- The declarations added to the topmost element. -/
  added : List Namespace

/-- The tags from the topmost element of a graft outwards. -/
def Graft.fromTop (g : Graft) : List Tag :=
  (g.top?.map fun t => Tag.mk t.name (t.declared ++ g.added) t.attributes).toList ++ g.around

/-- The first of the prefixes `ns0`, `ns1`, … from a number on that is not taken. -/
def freshShort (taken : List (Option String)) : Nat → Nat → String
  | 0, i => "ns" ++ toString i
  | fuel + 1, i =>
    let short := "ns" ++ toString i
    if taken.contains (some short) then freshShort taken fuel (i + 1) else short

/-- A declaration of a namespace for the topmost element of a graft: one in scope there,
or a new one, under the given prefix if that is free. -/
def Graft.declare (g : Graft) (named : Bool) (n : Namespace) : Namespace × Graft :=
  match declaring? named n.uri [] g.fromTop with
  | some found => (found, g)
  | none =>
    let taken := g.fromTop.flatMap fun t => t.declared.map Namespace.short?
    let short := match n.short? with
      | some short =>
        if taken.contains (some short) then freshShort taken taken.length 0 else short
      | none => freshShort taken taken.length 0
    let made : Namespace := ⟨some short, n.uri⟩
    (made, ⟨g.around, g.top?, g.added ++ [made]⟩)

/-- Which declaration stands in for each of those that a graft made itself, innermost
first. -/
abbrev Swaps := List (Namespace × Namespace)

/-- Takes a name under the declaration that stands in for its own. -/
def Graft.rename (g : Graft) (swaps : Swaps) (isAttribute : Bool) (name : Name) :
    Name × Graft :=
  match name.space? with
  | none => (name, g)
  | some n =>
    let named := isAttribute && n.short?.isSome
    match swaps.find? (·.1.short? == n.short?) with
    | some (_, found) =>
      if named && found.short?.isNone then
        let (found, g) := g.declare true n
        (⟨some found, name.label⟩, g)
      else (⟨some found, name.label⟩, g)
    | none =>
      let (found, g) := g.declare named n
      (⟨some found, name.label⟩, g)

/-- Takes the names of attributes under the declarations that stand in for their own. -/
def Graft.renameAll (g : Graft) (swaps : Swaps) :
    List Attribute → List Attribute × Graft
  | [] => ([], g)
  | a :: rest =>
    let (name, g) := g.rename swaps true a.name
    let (others, g) := g.renameAll swaps rest
    (⟨name, a.pieces⟩ :: others, g)

/-- Which of a tag's declarations are kept where the tags of `chain` are around it, and
what stands in for each. -/
def settleDeclared (chain : List Tag) (swaps : Swaps) (declared : List Namespace) :
    List Namespace × Swaps :=
  declared.foldl
    (fun (kept, swaps) n =>
      match declaring? false n.uri [] chain with
      | some found => (kept, (n, found) :: swaps)
      | none => (kept ++ [n], (n, n) :: swaps))
    ([], swaps)

mutual

/-- Settles a node of a graft below the tags of `path`, nearest first, which do not
include the topmost one. -/
def Graft.settle (g : Graft) (path : List Tag) (swaps : Swaps) : Node → Node × Graft
  | .element tag content =>
    let (kept, swaps) := settleDeclared (path ++ g.fromTop) swaps tag.declared
    let isTop := g.top?.isNone
    let g := if isTop then Graft.mk g.around (some ⟨tag.name, kept, []⟩) g.added else g
    let (name, g) := g.rename swaps false tag.name
    let (attributes, g) := g.renameAll swaps tag.attributes
    let settled : Tag := ⟨name, kept, attributes⟩
    let (content, g) := g.settleAll (if isTop then [] else settled :: path) swaps content
    (.element settled content, g)
  | .text s => (.text s, g)
  | .comment s => (.comment s, g)
  | .instruction target data => (.instruction target data, g)
  | .reference name => (.reference name, g)

/-- Settles the nodes of some content of a graft. -/
def Graft.settleAll (g : Graft) (path : List Tag) (swaps : Swaps) :
    List Node → List Node × Graft
  | [] => ([], g)
  | n :: rest =>
    let (n, g) := g.settle path swaps n
    let (rest, g) := g.settleAll path swaps rest
    (n :: rest, g)

end

/-- A node as it is once it stands under the tags of `around`, nearest first. -/
def Node.grafted (around : List Tag) (n : Node) : Node :=
  match Graft.settle ⟨around, none, []⟩ [] [] n with
  | (.element tag content, g) => .element ⟨tag.name, tag.declared ++ g.added, tag.attributes⟩ content
  | (other, _) => other

/-- What a node gives to another when its content is copied: the content of an element, and
otherwise the text that the node carries. -/
def Node.copySource : Node → List Node
  | .element _ content => content
  | .text s => [.text s]
  | .comment s => [.text s]
  | .instruction _ data => [.text data]
  | .reference name => [.text (writeReference name)]

/-- The text with which the content that a node gives begins. -/
def Node.leadingText (n : Node) : String :=
  match n.copySource with
  | .text s :: _ => s
  | _ => ""

/-- Content copied to stand under the tags of `around`: every node of it is copied and
grafted, and the runs of text stay between them. -/
def copiedContent (around : List Tag) (content : List Node) : List Node :=
  content.map fun n => n.copied.grafted around

end ReleaseNotes.Markup
