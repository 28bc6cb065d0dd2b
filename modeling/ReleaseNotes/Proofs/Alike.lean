import ReleaseNotes.Proofs.Exported
import ReleaseNotes.Summary
import ReleaseNotes.Tracker.Note

/-!
# Documents that are read alike

A document is read by the local names of its elements, by their attributes without a namespace, and by the text that
stands directly in them. Its namespaces do not matter, and neither do comments and processing instructions, wherever
they stand, even in the middle of a text (`Markup.Alike`). Two documents that differ in nothing else have, under each
name, elements that differ in nothing else (`Markup.Alike.forall₂_named`). So the same issues are read from them, the
same fields of a summary, the same summary of a note, or there is the same fault (`read_alike`).
-/

namespace ReleaseNotes

namespace Markup

variable {content content' inner inner' rest rest' : List Node} {n n' n'' : Node} {t t' t'' : Tag} {label : String}

/-! ### Content that differs only in what is not read -/

/-- Whether a node is a comment or a processing instruction. -/
def Node.isMarginal : Node → Bool
  | .comment _ | .instruction _ _ => true
  | _ => false

/-- The attributes of a tag that are in no namespace. -/
def Tag.plainAttributes (t : Tag) : List Attribute :=
  t.attributes.filter (·.name.space?.isNone)

/-- Two start tags differ only in namespaces: in that of the element, in the attributes that are in one, and in the
declarations. -/
structure Tag.IsAlike (t t' : Tag) : Prop where
  label_eq : t.name.label = t'.name.label
  plainAttributes_eq : t.plainAttributes = t'.plainAttributes

/-- Some content differs from other content only in namespaces, comments and processing instructions. This is the
equivalence that some changes generate, made anywhere in the content and however often. -/
inductive Alike : List Node → List Node → Prop where
  /-- Nothing is changed. -/
  | refl (content : List Node) : Alike content content
  /-- A change is taken back. -/
  | symm {content content' : List Node} (h : Alike content content') : Alike content' content
  /-- A change follows another one. -/
  | trans {content content' content'' : List Node} (h : Alike content content') (h' : Alike content' content'') :
      Alike content content''
  /-- A comment or a processing instruction is removed. -/
  | removed {n : Node} (hn : n.isMarginal) (rest : List Node) : Alike (n :: rest) rest
  /-- A run of text is divided in two. -/
  | divided (s s' : String) (rest : List Node) : Alike (.text (s ++ s') :: rest) (.text s :: .text s' :: rest)
  /-- An element gets other namespaces, and something is changed in it. -/
  | inside {t t' : Tag} {inner inner' : List Node} (ht : t.IsAlike t') (h : Alike inner inner') (rest : List Node) :
      Alike (.element t inner :: rest) (.element t' inner' :: rest)
  /-- Something is changed after a node. -/
  | after (n : Node) {rest rest' : List Node} (h : Alike rest rest') : Alike (n :: rest) (n :: rest')

/-- Two elements differ only in namespaces, and in comments and processing instructions below them. -/
inductive Node.IsAlike : Node → Node → Prop where
  | element {t t' : Tag} {inner inner' : List Node} (ht : t.IsAlike t') (h : Alike inner inner') :
      Node.IsAlike (.element t inner) (.element t' inner')

theorem Tag.IsAlike.refl (t : Tag) : t.IsAlike t := ⟨rfl, rfl⟩

theorem Tag.IsAlike.symm (h : t.IsAlike t') : t'.IsAlike t := ⟨h.label_eq.symm, h.plainAttributes_eq.symm⟩

theorem Tag.IsAlike.trans (h : t.IsAlike t') (h' : t'.IsAlike t'') : t.IsAlike t'' :=
  ⟨h.label_eq.trans h'.label_eq, h.plainAttributes_eq.trans h'.plainAttributes_eq⟩

theorem Node.IsAlike.refl_of_isNamed (h : n.isNamed label) : n.IsAlike n := by
  cases n with
  | element t inner => exact .element (.refl t) (.refl inner)
  | _ => cases h

theorem Node.IsAlike.symm (h : n.IsAlike n') : n'.IsAlike n := by
  cases h with
  | element ht h => exact .element ht.symm h.symm

theorem Node.IsAlike.trans (h : n.IsAlike n') (h' : n'.IsAlike n'') : n.IsAlike n'' := by
  cases h with
  | element ht h =>
    cases h' with
    | element ht' h' => exact .element (ht.trans ht') (h.trans h')

/-! ### Local names -/

theorem bne_of_mem_reverse {c : Char} {cs : List Char} (h : c ∉ cs) : ∀ d ∈ cs.reverse, (d != c) = true := by
  intro d hd
  rw [bne_iff_ne]
  rintro rfl
  exact h (List.mem_reverse.mp hd)

theorem afterLast_append_cons {c : Char} {cs : List Char} (h : c ∉ cs) (before : List Char) :
    Text.afterLast c (before ++ c :: cs) = cs := by
  rw [Text.afterLast, List.reverse_append, List.reverse_cons, List.append_assoc,
    List.takeWhile_append_of_pos (bne_of_mem_reverse h)]
  simp

theorem afterLast_eq_self {c : Char} {cs : List Char} (h : c ∉ cs) : Text.afterLast c cs = cs := by
  rw [Text.afterLast, List.takeWhile_eq_self_iff.mpr (bne_of_mem_reverse h), List.reverse_reverse]

/-- Whatever characters the name of the namespace has, the last part of a name in braces is its label, if that has no
closing brace. -/
theorem lastPart_braced (name : Name) (h : '\x7d' ∉ name.label.toList) : lastPart name.braced = name.label := by
  rw [lastPart, Name.braced]
  cases name.space? with
  | none => exact (congrArg String.ofList (afterLast_eq_self h)).trans String.ofList_toList
  | some space =>
    dsimp only
    rw [String.toList_append, String.toList_append, show "\x7d".toList = ['\x7d'] from rfl, List.append_assoc,
      List.singleton_append, afterLast_append_cons h, String.ofList_toList]

/-- The local part of an element's name is what follows the last closing brace where the name is written with its
namespace in braces. -/
theorem Node.localName?_eq_lastPart (h : ∀ tag, n.tag? = some tag → '\x7d' ∉ tag.name.label.toList) :
    n.localName? = n.tag?.map fun tag => lastPart tag.name.braced := by
  rw [Node.localName?]
  cases ht : n.tag? with
  | none => rfl
  | some tag => exact congrArg some (lastPart_braced tag.name (h tag ht)).symm

/-! ### What alike elements have in common -/

theorem Node.IsAlike.localName?_eq (h : n.IsAlike n') : n.localName? = n'.localName? := by
  cases h with
  | element ht _ => exact congrArg some ht.label_eq

theorem Node.IsAlike.alike_content (h : n.IsAlike n') : Alike n.content n'.content := by
  cases h with
  | element _ h => exact h

/-- An attribute in no namespace is found among those in no namespace. -/
theorem Tag.attribute?_eq (t : Tag) (label : String) :
    t.attribute? label = (t.plainAttributes.find? fun a => a.name == .plain label).map Attribute.value := by
  rw [Tag.attribute?, Tag.plainAttributes, List.find?_filter]
  congr 2
  funext a
  by_cases ha : a.name = .plain label
  · simp [ha, Name.plain]
  · simp [ha]

theorem Node.IsAlike.attribute?_eq (h : n.IsAlike n') (label : String) :
    n.attribute? label = n'.attribute? label := by
  cases h with
  | @element t t' _ _ ht _ =>
    show t.attribute? label = t'.attribute? label
    rw [t.attribute?_eq, t'.attribute?_eq, ht.plainAttributes_eq]

/-- The text directly in some content is the same, also where a comment divides it. -/
theorem Alike.ownText_eq (h : Alike content content') :
    String.join (content.map Node.ownText) = String.join (content'.map Node.ownText) := by
  induction h with
  | refl content => rfl
  | symm _ ih => exact ih.symm
  | trans _ _ ih ih' => exact ih.trans ih'
  | @removed n hn rest =>
    have hs : n.ownText = "" := by
      cases n with
      | comment _ | instruction _ _ => rfl
      | _ => cases hn
    rw [List.map_cons, String.join_cons, hs, String.empty_append]
  | divided s s' rest => simp only [List.map_cons, String.join_cons, Node.ownText, String.append_assoc]
  | inside _ _ rest => rfl
  | after n _ ih => rw [List.map_cons, List.map_cons, String.join_cons, String.join_cons, ih]

theorem Node.IsAlike.directText_eq (h : n.IsAlike n') : n.directText = n'.directText :=
  h.alike_content.ownText_eq

/-! ### Elements under a name -/

theorem forall₂_isAlike_refl (label : String) (content : List Node) :
    List.Forall₂ Node.IsAlike (content.flatMap (Node.named label)) (content.flatMap (Node.named label)) := by
  rw [List.forall₂_same]
  intro n hn
  obtain ⟨m, -, hm⟩ := List.mem_flatMap.mp hn
  exact .refl_of_isNamed (List.mem_filter.mp hm).2

theorem forall₂_isAlike_trans {l l' l'' : List Node} (h : List.Forall₂ Node.IsAlike l l')
    (h' : List.Forall₂ Node.IsAlike l' l'') : List.Forall₂ Node.IsAlike l l'' := by
  induction h generalizing l'' with
  | nil => exact h'
  | cons hn _ ih =>
    cases h' with
    | cons hn' h' => exact .cons (hn.trans hn') (ih h')

theorem Node.named_element (label : String) (t : Tag) (inner : List Node) :
    (Node.element t inner).named label =
      (if t.name.label = label then [.element t inner] else []) ++ inner.flatMap (Node.named label) := by
  have hinner : (familyOfAll inner).filter (Node.isNamed label) = inner.flatMap (Node.named label) :=
    Node.descendants_eq_flatMap label (.element t inner)
  have hself : (Node.element t inner).isNamed label ↔ t.name.label = label := by
    simp [Node.isNamed, Node.localName?, Node.tag?]
  rw [Node.named, Node.family, List.filter_cons, hinner]
  by_cases h : t.name.label = label <;> simp [h, hself]

/-- Alike content holds alike elements under each name, in the same order. -/
theorem Alike.forall₂_named (h : Alike content content') (label : String) :
    List.Forall₂ Node.IsAlike (content.flatMap (Node.named label)) (content'.flatMap (Node.named label)) := by
  induction h with
  | refl content => exact forall₂_isAlike_refl label content
  | symm _ ih => exact (ih.imp fun _ _ => Node.IsAlike.symm).flip
  | trans _ _ ih ih' => exact forall₂_isAlike_trans ih ih'
  | @removed n hn rest =>
    have hs : n.named label = [] := by
      cases n with
      | comment _ | instruction _ _ => rfl
      | _ => cases hn
    rw [List.flatMap_cons, hs, List.nil_append]
    exact forall₂_isAlike_refl label rest
  | divided s s' rest => exact forall₂_isAlike_refl label rest
  | @inside t t' inner inner' ht h rest ih =>
    have hself : List.Forall₂ Node.IsAlike (if t.name.label = label then [.element t inner] else [])
        (if t'.name.label = label then [.element t' inner'] else []) := by
      rw [← ht.label_eq]
      split_ifs
      · exact .cons (.element ht h) .nil
      · exact .nil
    rw [List.flatMap_cons, List.flatMap_cons, Node.named_element, Node.named_element]
    exact List.rel_append (List.rel_append hself ih) (forall₂_isAlike_refl label rest)
  | after n _ ih =>
    rw [List.flatMap_cons, List.flatMap_cons]
    refine List.rel_append ?_ ih
    simpa using forall₂_isAlike_refl label [n]

theorem Node.IsAlike.forall₂_descendants (h : n.IsAlike n') (label : String) :
    List.Forall₂ Node.IsAlike (n.descendants label) (n'.descendants label) := by
  rw [Node.descendants_eq_flatMap, Node.descendants_eq_flatMap]
  exact h.alike_content.forall₂_named label

/-- The first elements under a name are alike, or neither element has one. -/
theorem Node.IsAlike.rel_descendant? (h : n.IsAlike n') (label : String) :
    Option.Rel Node.IsAlike (n.descendant? label) (n'.descendant? label) := by
  have hall := h.forall₂_descendants label
  rw [Node.descendant?_eq_head?, Node.descendant?_eq_head?]
  generalize n.descendants label = l, n'.descendants label = l' at hall
  cases hall with
  | nil => exact .none
  | cons hn _ => exact .some hn

/-- What must be in one of two alike elements is in both, alike, or its lack is the same fault. -/
theorem Node.IsAlike.require_cases (h : n.IsAlike n') (label : String) :
    (∃ m m', n.require label = .ok m ∧ n'.require label = .ok m' ∧ m.IsAlike m') ∨
      ∃ fault, n.require label = .error fault ∧ n'.require label = .error fault := by
  have hrel := h.rel_descendant? label
  rw [Node.require, Node.require, h.localName?_eq]
  generalize n.descendant? label = found?, n'.descendant? label = found'? at hrel
  cases hrel with
  | some hm => exact .inl ⟨_, _, rfl, rfl, hm⟩
  | none => exact .inr ⟨_, rfl, rfl⟩

end Markup

open Markup

/-! ### Reports, summaries and notes -/

namespace Tracker

variable {n n' : Node}

theorem latestNote_eq_of_alike (noteFile : String) (latest? : Option Int) {l l' : List Node}
    (h : List.Forall₂ Node.IsAlike l l') : latestNote noteFile latest? l = latestNote noteFile latest? l' := by
  induction h generalizing latest? with
  | nil => rfl
  | cons hn _ ih =>
    rw [latestNote_cons, latestNote_cons, isNote, isNote, writtenId, writtenId, hn.attribute?_eq, hn.attribute?_eq]
    simp only [ih]

theorem latestNoteId?_eq_of_alike (h : n.IsAlike n') (noteFile : String) :
    latestNoteId? n noteFile = latestNoteId? n' noteFile := by
  have hrel := h.rel_descendant? attachmentsLabel
  rw [latestNoteId?, latestNoteId?]
  generalize n.descendant? attachmentsLabel = found?, n'.descendant? attachmentsLabel = found'? at hrel
  cases hrel with
  | none => rfl
  | some hm => exact latestNote_eq_of_alike noteFile none (hm.forall₂_descendants attachmentLabel)

/-- Alike items are read as the same issue, or are the same fault. -/
theorem ofItem_eq_of_alike (h : n.IsAlike n') (noteFile : String) :
    Issue.ofItem n noteFile = Issue.ofItem n' noteFile := by
  rw [Issue.ofItem, Issue.ofItem, latestNoteId?_eq_of_alike h]
  rcases h.require_cases keyLabel with ⟨key, key', hk, hk', hkey⟩ | ⟨fault, hk, hk'⟩
  · rw [hk, hk', ok_bind, ok_bind, hkey.directText_eq]
    rcases h.require_cases titleLabel with ⟨title, title', ht, ht', htitle⟩ | ⟨fault, ht, ht'⟩
    · rw [ht, ht', ok_bind, ok_bind, htitle.directText_eq]
    · rw [ht, ht']
  · rw [hk, hk']
    rfl

theorem issues_eq_of_alike (h : n.IsAlike n') (noteFile : String) : issues n noteFile = issues n' noteFile := by
  have hitems := h.forall₂_descendants itemLabel
  rw [issues, issues]
  generalize n.descendants itemLabel = l, n'.descendants itemLabel = l' at hitems
  induction hitems with
  | nil => rfl
  | cons hitem _ ih => rw [List.mapM_cons, List.mapM_cons, ofItem_eq_of_alike hitem, ih]

theorem noteSummary_eq_of_alike (h : n.IsAlike n') (key : String) : noteSummary key n = noteSummary key n' := by
  rw [noteSummary, noteSummary]
  rcases h.require_cases PageElement.paragraph.label with ⟨p, p', hp, hp', hparagraph⟩ | ⟨fault, hp, hp'⟩
  · rw [hp, hp']
    show Except.ok (Text.joinWords p.directText) = _
    rw [hparagraph.directText_eq]
  · rw [hp, hp']

end Tracker

theorem text_eq_of_alike {n n' : Node} (h : n.IsAlike n') (field : SummaryField) :
    (Summary.mk n).text field = (Summary.mk n').text field := by
  rw [Summary.text, Summary.text, Summary.fragment, Summary.fragment]
  rcases h.require_cases field.label with ⟨m, m', hm, hm', hfield⟩ | ⟨fault, hm, hm'⟩
  · rw [hm, hm']
    exact congrArg Except.ok hfield.directText_eq
  · rw [hm, hm']

/-- **Documents are read by local names, and without their comments**: two documents that differ only in namespaces,
comments and processing instructions give the same issues as reports, the same fields as summaries and the same summary
as notes, or the same fault. -/
theorem read_alike (n n' : Node) (h : n.IsAlike n') :
    (∀ noteFile, Tracker.issues n noteFile = Tracker.issues n' noteFile) ∧
    (∀ field, (Summary.mk n).text field = (Summary.mk n').text field) ∧
    ∀ key, Tracker.noteSummary key n = Tracker.noteSummary key n' :=
  ⟨Tracker.issues_eq_of_alike h, text_eq_of_alike h, Tracker.noteSummary_eq_of_alike h⟩

/-- The namespace of a report, with braces in its name. -/
def bracedSpace : Namespace := ⟨some "t", "\x7ba\x7db\x7ditem"⟩

/-- A tag with a name in that namespace. -/
def bracedTag (label : String) (declared : List Namespace) : Tag :=
  ⟨⟨some bracedSpace, label⟩, declared, []⟩

/-- A report of one issue, and a paragraph: the tags of the report and of its item, what stands before the item, and
what stands in the key. -/
def reportOf (root item : Tag) (before key : List Node) : Node :=
  .element root (before ++ [
    .element item [
      .element (.plain Tracker.keyLabel []) key,
      .withText titleLabel "[A-1] first",
      .element (.plain Tracker.attachmentsLabel []) [Tracker.upload "note" "7"]],
    .withText PageElement.paragraph.label "  what  is new "])

/-- The report without namespaces and comments. -/
def bareReport : Node :=
  reportOf (.plain "rss" []) (.plain itemLabel []) [] [.text "A-1"]

/-- The report with namespaces, a comment before the item and an instruction in the key. -/
def annotatedReport : Node :=
  reportOf (bracedTag "rss" [bracedSpace]) (bracedTag itemLabel []) [.comment "issues"]
    [.text "A", .instruction "number" "", .text "-1"]

/-- What is read from the one is read from the other. -/
theorem read_alike_small :
    annotatedReport.IsAlike bareReport ∧
    Tracker.issues annotatedReport "note" = .ok [⟨"A-1", "first", some 7⟩] ∧
    (Summary.mk annotatedReport).text .branch = .error (.missingChild "branch" "rss") ∧
    Tracker.noteSummary "A-1" annotatedReport = .ok "what is new" := by
  have hkey : Alike [.text "A", .instruction "number" "", .text "-1"] [.text "A-1"] :=
    (Alike.after _ (.removed rfl _)).trans (.symm (.divided "A" "-1" []))
  have hroot : (bracedTag "rss" [bracedSpace]).IsAlike (.plain "rss" []) := ⟨rfl, rfl⟩
  have hitem : (bracedTag itemLabel []).IsAlike (.plain itemLabel []) := ⟨rfl, rfl⟩
  have halike : annotatedReport.IsAlike bareReport :=
    .element hroot (.trans (.removed rfl _) (.inside hitem (.inside (.refl _) hkey _) _))
  obtain ⟨hissues, htext, hsummary⟩ := read_alike annotatedReport bareReport halike
  exact ⟨halike, (hissues "note").trans (by decide +kernel), (htext .branch).trans (by decide +kernel),
    (hsummary "A-1").trans (by decide +kernel)⟩

end ReleaseNotes
