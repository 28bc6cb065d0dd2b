import ReleaseNotes.Markup.Document
import ReleaseNotes.Markup.Xml

/-!
# What can be read again

A node is written as text and read again where some declarations hold (`scope`, nearest first) and no
document type says what an entity is. `Node.tidy` is the node without runs of text that are empty or stand
side by side: a reader cannot tell those apart. `Node.IsReadable` says what it takes for a node to be read
again as its tidy self. The names in it must be names and stand for themselves, its text must be legal,
what closes a comment or an instruction must not stand inside it, elements must not be nested too deeply,
and no entity may be referred to. What a reader remarks on in such a node is `Node.notices`.
-/

namespace ReleaseNotes.Markup

/-! ### Tidy nodes -/

/-- The parts of a value that is a text. -/
def textPieces (s : String) : List Piece :=
  if s.isEmpty then [] else [.chars s]

/-- The content that is a text. -/
def textContent (s : String) : List Node :=
  if s.isEmpty then [] else [.text s]

/-- The parts of a value after a text, all text between two references in one part. -/
def tidyPieces (run : String) : List Piece → List Piece
  | [] => textPieces run
  | .chars s :: rest => tidyPieces (run ++ s) rest
  | .reference name meaning :: rest => textPieces run ++ .reference name meaning :: tidyPieces "" rest

/-- An attribute whose value is tidy. -/
def Attribute.tidy (a : Attribute) : Attribute :=
  ⟨a.name, tidyPieces "" a.pieces⟩

/-- A tag whose attributes are tidy. -/
def Tag.tidy (t : Tag) : Tag :=
  ⟨t.name, t.declared, t.attributes.map Attribute.tidy⟩

mutual

/-- A node without runs of text that are empty or stand side by side. -/
def Node.tidy : Node → Node
  | .element tag content => .element tag.tidy (tidyContent "" content)
  | .text s => .text s
  | .comment s => .comment s
  | .instruction target data => .instruction target data
  | .reference name => .reference name

/-- Content after a text, all text between two other nodes in one run. -/
def tidyContent (run : String) : List Node → List Node
  | [] => textContent run
  | .text s :: rest => tidyContent (run ++ s) rest
  | .element tag content :: rest =>
    textContent run ++ (Node.element tag content).tidy :: tidyContent "" rest
  | .comment s :: rest => textContent run ++ .comment s :: tidyContent "" rest
  | .instruction target data :: rest => textContent run ++ .instruction target data :: tidyContent "" rest
  | .reference name :: rest => textContent run ++ .reference name :: tidyContent "" rest

end

theorem value_textPieces (s : String) : String.join ((textPieces s).map Piece.reading) = s := by
  unfold textPieces
  split
  · rename_i h
    rw [String.isEmpty_iff.mp h]
    rfl
  · simp [Piece.reading]

theorem value_tidyPieces (run : String) (pieces : List Piece) :
    String.join ((tidyPieces run pieces).map Piece.reading) = run ++ String.join (pieces.map Piece.reading) := by
  induction pieces generalizing run with
  | nil => simp [tidyPieces, value_textPieces]
  | cons piece pieces ih =>
    cases piece with
    | chars s => simp [tidyPieces, ih, Piece.reading, String.append_assoc]
    | reference name meaning => simp [tidyPieces, ih, value_textPieces]

/-! ### Names and texts -/

/-- Whether a text is a name. -/
def isNameText (s : String) : Bool :=
  s.toList.head?.any isNameStart && s.toList.all isNameChar

/-- A text that a comment may hold: it is legal, and no two hyphens stand in it or where it ends. -/
structure IsCommentText (s : String) : Prop where
  legal : isLegalText s
  noReturn : '\r' ∉ s.toList
  unbroken : ¬ ['-', '-'] <:+: s.toList ++ ['-']

/-- A target and data that an instruction may hold. The data begin after the gap that sets them off, and
what closes the instruction does not stand in them. -/
structure IsInstructionText (target data : String) : Prop where
  name : isNameText target
  free : target ≠ "xml"
  legal : isLegalText data
  noReturn : '\r' ∉ data.toList
  unbroken : ¬ ['?', '>'] <:+: data.toList ++ ['?']
  apart : ∀ c ∈ data.toList.head?, isGap c = false

/-! ### Tags -/

/-- The name under which a namespace declaration is written. -/
def Namespace.written (n : Namespace) : String :=
  (n.short?.map ("xmlns:" ++ ·)).getD "xmlns"

/-- All that is written in a tag after its name: declarations, then attributes. -/
def Tag.values (t : Tag) : List (String × String) :=
  t.declared.map (fun n => (n.written, n.uri)) ++ t.attributes.map fun a => (a.name.written, a.value)

/-- Whether a part of a value is a run of characters. -/
def Piece.isChars : Piece → Bool
  | .chars _ => true
  | .reference _ _ => false

/-- A tag can be written: every name in it is a name, and every value is a legal text without
references to entities. -/
structure Tag.IsWritable (t : Tag) : Prop where
  name : isNameText t.name.written
  values : ∀ v ∈ t.values, isNameText v.1 ∧ isLegalText v.2
  pieces : ∀ a ∈ t.attributes, a.pieces.all Piece.isChars

/-- The names in a tag stand for themselves where the declarations of `scope` hold around it: no name
is written twice, every declaration is taken as it is, and every other name is in the namespace that it
is read in. -/
structure Tag.IsResolved (scope : List (List Namespace)) (t : Tag) : Prop where
  distinct : (t.values.map Prod.fst).Nodup
  declared : ∀ n ∈ t.declared, (declare? n.written (textPieces n.uri)).map Prod.fst = some (some n)
  undeclared : ∀ a ∈ t.attributes, declare? a.name.written (textPieces a.value) = none
  attributes : ∀ a ∈ t.attributes, (resolveAttribute (t.declared :: scope) a.name.written).1 = a.name
  name : (resolveElement (t.declared :: scope) t.name.written).1 = t.name

/-- What is remarked on when two attributes of a tag have names that mean the same. -/
def Tag.repetition (t : Tag) : List Notice :=
  ((firstRepeated? (t.attributes.map (·.name.identity))).map fun identity =>
    Notice.breach (.repeatedAttribute identity.2)).toList

/-- What a reader remarks on in a namespace declaration. -/
def Namespace.notices (n : Namespace) : List Notice :=
  ((declare? n.written (textPieces n.uri)).map Prod.snd).getD []

/-- What a reader remarks on in a tag. -/
def Tag.notices (scope : List (List Namespace)) (t : Tag) : List Notice :=
  t.declared.flatMap Namespace.notices ++ (resolveElement (t.declared :: scope) t.name.written).2 ++
    t.attributes.flatMap (fun a => (resolveAttribute (t.declared :: scope) a.name.written).2) ++ t.repetition

/-! ### Nodes -/

mutual

/-- A node can be read again, as its tidy self, where the declarations of `scope` hold, one list for
each element around it. -/
def Node.IsReadable (scope : List (List Namespace)) : Node → Prop
  | .element tag content =>
    scope.length < nestingLimit ∧ tag.IsWritable ∧ tag.IsResolved scope ∧
      AreReadable (tag.declared :: scope) content
  | .text s => isLegalText s
  | .comment s => IsCommentText s
  | .instruction target data => IsInstructionText target data
  | .reference _ => False

/-- All of some content can be read again. -/
def AreReadable (scope : List (List Namespace)) : List Node → Prop
  | [] => True
  | n :: rest => n.IsReadable scope ∧ AreReadable scope rest

end

mutual

/-- What a reader remarks on in a node. -/
def Node.notices (scope : List (List Namespace)) : Node → List Notice
  | .element tag content => tag.notices scope ++ noticesOfAll (tag.declared :: scope) content
  | .text _ => []
  | .comment _ => []
  | .instruction target _ => targetNotices target
  | .reference _ => []

/-- What a reader remarks on in some content. -/
def noticesOfAll (scope : List (List Namespace)) : List Node → List Notice
  | [] => []
  | n :: rest => n.notices scope ++ noticesOfAll scope rest

end

end ReleaseNotes.Markup
