import ReleaseNotes.Proofs.Reading
import ReleaseNotes.Proofs.Rebuilding

/-!
# What has been read can be read again

What a reader makes of the text of an element is an element that can be read again (`isReadable_of_read`).
It follows which elements survive being written and read: those that can be read again, and no others
(`exists_read_written_iff`).
-/

namespace ReleaseNotes.Markup

variable {cs : List Char}

/-! ### Names as they are written -/

theorem splitName_eq {name label : String} {short? : Option String} {notices : List Notice}
    (h : splitName name = ((short?, label), notices)) :
    name = (short?.map (· ++ ":")).getD "" ++ label := by
  unfold splitName at h
  split at h
  · rename_i short label' hspan
    split at h
    · cases h
      rfl
    · cases h
      have hparts : short ++ ':' :: label' = name.toList := by
        rw [List.span_eq_takeWhile_dropWhile, Prod.mk.injEq] at hspan
        rw [← hspan.1, ← hspan.2, List.takeWhile_append_dropWhile]
      refine String.toList_injective ?_
      rw [← hparts]
      simp
  · cases h
    rfl

theorem short?_of_declaration? {scope : List (List Namespace)} {short? : Option String} {n : Namespace}
    (h : declaration? scope short? = some n) : n.short? = short? := by
  obtain ⟨declared, -, h⟩ := List.exists_of_findSome?_eq_some h
  simpa using List.find?_some h

theorem short?_of_spaceOf? {scope : List (List Namespace)} {short : String} {n : Namespace}
    (h : spaceOf? scope short = some n) : n.short? = some short := by
  unfold spaceOf? at h
  split at h
  · rename_i hx
    cases h
    rw [beq_iff_eq.mp hx]
    rfl
  · exact short?_of_declaration? h

theorem written_some {n : Namespace} {short : String} (h : n.short? = some short) (label : String) :
    (Name.mk (some n) label).written = short ++ ":" ++ label := by
  rw [Name.written, Option.bind_some, h]

theorem written_none {space? : Option Namespace} (h : space?.bind Namespace.short? = none) (label : String) :
    (Name.mk space? label).written = label := by
  rw [Name.written, h]

/-- An attribute is written under the name that it was read under. -/
theorem written_resolveAttribute (scope : List (List Namespace)) (name : String) :
    (resolveAttribute scope name).1.written = name := by
  unfold resolveAttribute
  split
  · rename_i hs
    rw [splitName_eq hs]
    exact written_none rfl _
  · rename_i hs
    split
    · rename_i hn
      rw [splitName_eq hs]
      exact written_some (short?_of_spaceOf? hn) _
    · exact written_none rfl _

/-- An element is written under the name that it was read under. -/
theorem written_resolveElement (scope : List (List Namespace)) (name : String) :
    (resolveElement scope name).1.written = name := by
  unfold resolveElement
  split
  · rename_i hs
    split
    · rename_i hn
      rw [splitName_eq hs]
      exact written_some (short?_of_spaceOf? hn) _
    · exact written_none rfl _
  · rename_i hs
    split
    · rename_i hn
      rw [splitName_eq hs]
      refine written_none ?_ _
      split
      · rfl
      · exact short?_of_declaration? hn
    · rw [splitName_eq hs]
      exact written_none rfl _

theorem declareDefault_eq {uri : String} {n : Namespace} {notices : List Notice}
    (h : declareDefault uri = (some n, notices)) : n = ⟨none, uri⟩ := by
  unfold declareDefault at h
  split at h
  · cases h
  split at h
  · cases h
  · cases h
    rfl

theorem declareShort_eq {short uri : String} {n : Namespace} {notices : List Notice}
    (h : declareShort short uri = (some n, notices)) : n = ⟨some short, uri⟩ := by
  unfold declareShort at h
  dsimp only at h
  split at h
  · split at h <;> cases h
  split at h
  · cases h
  split at h <;>
  · cases h
    rfl

/-- A namespace declaration is written as it was read. -/
theorem written_of_declare? {name : String} {pieces : List Piece} {n : Namespace} {notices : List Notice}
    (h : declare? name pieces = some (some n, notices)) :
    n.written = name ∧ n.uri = String.join (pieces.map Piece.reading) := by
  unfold declare? at h
  dsimp only at h
  split at h
  · rename_i hx
    rw [declareDefault_eq (Option.some.inj h), beq_iff_eq.mp hx]
    exact ⟨rfl, rfl⟩
  · split at h
    · rename_i short hs
      rw [declareShort_eq (Option.some.inj h), splitName_eq (Prod.ext hs rfl)]
      exact ⟨rfl, rfl⟩
    · cases h

/-! ### Tags -/

variable {scope : List (List Namespace)} {tag : Tag} {name : String} {written : List (String × List Piece)}

theorem explain_eq_ok {pieces explained : List Piece} {notices : List Notice}
    (h : Entities.none.explain pieces = .ok (explained, notices)) :
    pieces.all Piece.isChars ∧ explained = pieces ∧ notices = [] := by
  induction pieces generalizing explained notices with
  | nil =>
    cases h
    exact ⟨rfl, rfl, rfl⟩
  | cons piece pieces ih =>
    rw [Entities.explain, List.foldrM_cons] at h
    obtain ⟨⟨explained', notices'⟩, hrest, h⟩ := bind_eq_ok.mp h
    obtain ⟨hall, rfl, rfl⟩ := ih hrest
    cases piece with
    | chars s =>
      cases h
      exact ⟨hall, rfl, rfl⟩
    | reference name meaning => cases h

theorem eq_map_of_mapM_eq_ok {α β ε : Type} {f : α → Except ε β} {g : α → β} {p : α → Prop} {l : List α}
    {k : List β} (hf : ∀ a b, f a = .ok b → p a ∧ b = g a) (h : l.mapM f = .ok k) :
    (∀ a ∈ l, p a) ∧ k = l.map g := by
  obtain ⟨hp, heq⟩ := (List.forall₂_and_left _ _).mp ((mapM_eq_ok_iff_forall₂.mp h).imp hf)
  have hk : List.Forall₂ (· = ·) (l.map g) k := List.forall₂_map_left_iff.mpr (heq.imp fun _ _ => Eq.symm)
  rw [List.forall₂_eq_eq_eq] at hk
  exact ⟨hp, hk.symm⟩

/-- What a tag that is read is made of: what is written in it refers to no entity, and each part of it is a
declaration or an attribute. -/
theorem resolveTag_eq_ok {notices : List Notice} (h : resolveTag .none scope name written = .ok (tag, notices)) :
    (written.map Prod.fst).Nodup ∧ (∀ v ∈ written, v.2.all Piece.isChars) ∧
      tag.declared = written.filterMap (fun v => (declare? v.1 v.2).bind Prod.fst) ∧
      tag.attributes = (written.filter fun v => (declare? v.1 v.2).isNone).map (fun v =>
        ⟨(resolveAttribute (tag.declared :: scope) v.1).1, v.2⟩) ∧
      tag.name = (resolveElement (tag.declared :: scope) name).1 := by
  unfold resolveTag at h
  split at h
  · cases h
  rename_i hn
  obtain ⟨explained, he, h⟩ := bind_eq_ok.mp h
  obtain ⟨hchars, rfl⟩ := eq_map_of_mapM_eq_ok (p := fun v => v.2.all Piece.isChars = true)
    (g := fun v => (v.1, v.2, ([] : List Notice))) (fun v b hb => by
      obtain ⟨⟨pieces, notices⟩, hv, hb⟩ := bind_eq_ok.mp hb
      cases hb
      obtain ⟨hall, rfl, rfl⟩ := explain_eq_ok hv
      exact ⟨hall, rfl⟩) he
  cases h
  refine ⟨firstRepeated?_eq_none_iff.mp hn, hchars, ?_, ?_, rfl⟩
  · dsimp only
    rw [List.filterMap_map, List.filterMap_filterMap]
    rfl
  · dsimp only
    rw [List.filter_map, List.map_map, List.map_map]
    rfl

/-- The names of what some of the written values become stand in the order of those values. -/
theorem map_sublist_of_filterMap {α β γ : Type} {f : α → Option β} {g : β → γ} {k : α → γ} {p : α → Bool}
    {l : List α} (h : ∀ a b, f a = some b → p a ∧ g b = k a) :
    ((l.filterMap f).map g).Sublist ((l.filter p).map k) := by
  induction l with
  | nil => exact List.Sublist.slnil
  | cons a l ih =>
    rw [List.filterMap_cons, List.filter_cons]
    cases hf : f a with
    | none =>
      dsimp only
      split
      · exact ih.cons _
      · exact ih
    | some b =>
      obtain ⟨hp, hg⟩ := h a b hf
      dsimp only
      rw [if_pos hp, List.map_cons, List.map_cons, hg]
      exact ih.cons_cons _

/-- No name is written twice in a tag that is read. -/
theorem nodup_values_of_resolveTag {notices : List Notice}
    (h : resolveTag .none scope name written = .ok (tag, notices)) : (tag.values.map Prod.fst).Nodup := by
  obtain ⟨hdistinct, -, hdeclared, hattributes, -⟩ := resolveTag_eq_ok h
  have hfirst : (tag.declared.map Namespace.written).Sublist
      ((written.filter fun v => !(declare? v.1 v.2).isNone).map Prod.fst) := by
    rw [hdeclared]
    refine map_sublist_of_filterMap fun v n hn => ?_
    obtain ⟨⟨n?, notices⟩, hd, rfl⟩ := Option.bind_eq_some_iff.mp hn
    exact ⟨by rw [hd]; rfl, (written_of_declare? hd).1⟩
  have hsecond : tag.attributes.map (·.name.written) =
      (written.filter fun v => (declare? v.1 v.2).isNone).map Prod.fst := by
    rw [hattributes, List.map_map]
    exact List.map_congr_left fun v _ => written_resolveAttribute _ _
  have hnames : tag.values.map Prod.fst =
      tag.declared.map Namespace.written ++ tag.attributes.map (·.name.written) := by
    rw [Tag.values, List.map_append, List.map_map, List.map_map]
    rfl
  have hall : ((written.filter fun v => !(declare? v.1 v.2).isNone) ++
      written.filter fun v => (declare? v.1 v.2).isNone).Perm written :=
    List.perm_append_comm.trans (List.filter_append_perm (fun v => (declare? v.1 v.2).isNone) written)
  rw [hnames, hsecond]
  refine (hfirst.append (List.Sublist.refl _)).nodup ?_
  rw [← List.map_append]
  exact (hall.map Prod.fst).nodup_iff.mpr hdistinct

/-- **A tag that is read can be read again.** -/
theorem isResolved_of_resolveTag {notices : List Notice} (hn : isNameText name)
    (hw : ∀ v ∈ written, isNameText v.1 ∧ IsReadValue v.2)
    (h : resolveTag .none scope name written = .ok (tag, notices)) : tag.IsWritable ∧ tag.IsResolved scope := by
  obtain ⟨hdistinct, hchars, hdeclared, hattributes, hname⟩ := resolveTag_eq_ok h
  have htext : ∀ v ∈ written, v.2 = textPieces (String.join (v.2.map Piece.reading)) ∧
      isLegalText (String.join (v.2.map Piece.reading)) := by
    intro v hv
    obtain ⟨s, hs, he⟩ := (hw v hv).2 (hchars v hv)
    rw [he, value_textPieces]
    exact ⟨rfl, hs⟩
  have hdeclaration : ∀ n ∈ tag.declared, ∃ v ∈ written, ∃ notices,
      declare? v.1 v.2 = some (some n, notices) ∧ n.written = v.1 ∧ textPieces n.uri = v.2 ∧ isLegalText n.uri := by
    intro n hn
    rw [hdeclared] at hn
    obtain ⟨v, hv, hn⟩ := List.mem_filterMap.mp hn
    obtain ⟨⟨n?, notices⟩, hd, rfl⟩ := Option.bind_eq_some_iff.mp hn
    obtain ⟨hwritten, huri⟩ := written_of_declare? hd
    exact ⟨v, hv, notices, hd, hwritten, huri ▸ (htext v hv).1.symm, huri ▸ (htext v hv).2⟩
  have hattribute : ∀ a ∈ tag.attributes, ∃ v ∈ written, declare? v.1 v.2 = none ∧ a.name.written = v.1 ∧
      a.pieces = v.2 ∧ (resolveAttribute (tag.declared :: scope) v.1).1 = a.name := by
    intro a ha
    rw [hattributes] at ha
    obtain ⟨v, hv, rfl⟩ := List.mem_map.mp ha
    obtain ⟨hv, hd⟩ := List.mem_filter.mp hv
    exact ⟨v, hv, Option.isNone_iff_eq_none.mp hd, written_resolveAttribute _ _, rfl, rfl⟩
  refine ⟨⟨?_, ?_, ?_⟩, ⟨?_, ?_, ?_, ?_, ?_⟩⟩
  · rw [hname, written_resolveElement]
    exact hn
  · intro v hv
    rcases List.mem_append.mp hv with hv | hv
    · obtain ⟨n, hn, rfl⟩ := List.mem_map.mp hv
      obtain ⟨v, hv, _, -, hwritten, -, hlegal⟩ := hdeclaration n hn
      exact ⟨hwritten ▸ (hw v hv).1, hlegal⟩
    · obtain ⟨a, ha, rfl⟩ := List.mem_map.mp hv
      obtain ⟨v, hv, -, hwritten, hpieces, -⟩ := hattribute a ha
      refine ⟨hwritten ▸ (hw v hv).1, ?_⟩
      rw [Attribute.value, hpieces]
      exact (htext v hv).2
  · intro a ha
    obtain ⟨v, hv, -, -, hpieces, -⟩ := hattribute a ha
    rw [hpieces]
    exact hchars v hv
  · exact nodup_values_of_resolveTag h
  · intro n hn
    obtain ⟨v, hv, notices, hd, hwritten, huri, -⟩ := hdeclaration n hn
    rw [hwritten, huri, hd]
    rfl
  · intro a ha
    obtain ⟨v, hv, hd, hwritten, hpieces, -⟩ := hattribute a ha
    rw [hwritten, Attribute.value, hpieces, ← (htext v hv).1]
    exact hd
  · intro a ha
    obtain ⟨v, hv, hd, hwritten, hpieces, hresolved⟩ := hattribute a ha
    rw [hwritten]
    exact hresolved
  · rw [hname, written_resolveElement]

/-! ### Trees -/

theorem areReadable_iff {content : List Node} : AreReadable scope content ↔ ∀ n ∈ content, n.IsReadable scope := by
  induction content with
  | nil => simp [AreReadable]
  | cons n content ih => rw [AreReadable, List.forall_mem_cons, ih]

mutual

/-- Whatever stands in a node that can be read again can be read again where it stands. -/
theorem exists_isReadable_of_mem_family {scope : List (List Namespace)} {m : Node} :
    ∀ n : Node, n.IsReadable scope → m ∈ n.family → ∃ inner, m.IsReadable inner
  | .element tag content, h, hm => by
    rw [Node.family, List.mem_cons] at hm
    rcases hm with rfl | hm
    · exact ⟨scope, h⟩
    · rw [Node.IsReadable] at h
      exact exists_isReadable_of_mem_familyOfAll content h.2.2.2 hm
  | .text s, h, hm | .comment s, h, hm | .instruction target data, h, hm | .reference name, h, hm => by
    rw [Node.family, List.mem_singleton] at hm
    exact ⟨scope, hm ▸ h⟩

theorem exists_isReadable_of_mem_familyOfAll {scope : List (List Namespace)} {m : Node} :
    ∀ content : List Node, AreReadable scope content → m ∈ familyOfAll content → ∃ inner, m.IsReadable inner
  | [], _, hm => by
    rw [familyOfAll] at hm
    cases hm
  | n :: content, h, hm => by
    rw [AreReadable] at h
    rw [familyOfAll, List.mem_append] at hm
    rcases hm with hm | hm
    · exact exists_isReadable_of_mem_family n h.1 hm
    · exact exists_isReadable_of_mem_familyOfAll content h.2 hm

end

theorem isReadable_pushText {before : List Node} {s : String} (h : ∀ n ∈ before, n.IsReadable scope)
    (hs : isLegalText s) : ∀ n ∈ pushText before s, n.IsReadable scope := by
  unfold pushText
  split
  · rename_i t older
    obtain ⟨ht, h⟩ := List.forall_mem_cons.mp h
    rw [Node.IsReadable] at ht
    refine List.forall_mem_cons.mpr ⟨?_, h⟩
    rw [Node.IsReadable, isLegalText_append, ht, hs]
    rfl
  · refine List.forall_mem_cons.mpr ⟨?_, h⟩
    rw [Node.IsReadable]
    exact hs

/-- A tag can be written and read again, and is not nested too deeply. -/
def Tag.IsReadable (scope : List (List Namespace)) (tag : Tag) : Prop :=
  scope.length < nestingLimit ∧ tag.IsWritable ∧ tag.IsResolved scope

/-- Proper tokens of a document without a document type are read into what can be read again. -/
theorem carries_isReadable :
    Entities.none.Carries Token.IsRead Tag.IsReadable fun scope content => ∀ n ∈ content, n.IsReadable scope where
  empty := List.forall_mem_nil _
  text ht hb := isReadable_pushText hb ht
  comment ht hb := List.forall_mem_cons.mpr ⟨by rwa [Node.IsReadable], hb⟩
  instruction ht hb := List.forall_mem_cons.mpr ⟨by rwa [Node.IsReadable], hb⟩
  reference he := by cases he
  tag ht hd htag := ⟨hd, isResolved_of_resolveTag ht.1 ht.2 htag⟩
  element ht hc hb := by
    refine List.forall_mem_cons.mpr ⟨?_, hb⟩
    rw [Node.IsReadable, areReadable_iff]
    exact ⟨ht.1, ht.2.1, ht.2.2, fun n hn => hc n (List.mem_reverse.mp hn)⟩

/-! ### Documents -/

theorem tokens_marked_eq_ok {found : List Token} (h : tokens ('<' :: cs) = .ok found) :
    ∃ token rest more, readMarked cs = .ok (token, rest) ∧ tokens rest = .ok more ∧ found = token :: more := by
  rw [tokens] at h
  split at h
  · cases h
  · rename_i hfirst
    split at h
    · cases h
    · rename_i hmore
      cases h
      exact ⟨_, _, _, hfirst, hmore, rfl⟩

theorem tokens_lineFeed_eq_ok {found : List Token} (h : tokens ('\n' :: '<' :: cs) = .ok found) :
    ∃ more, tokens ('<' :: cs) = .ok more ∧ found = .chars "\n" true :: more := by
  have hdrop : ('<' :: cs).dropWhile (· != '<') = '<' :: cs := List.dropWhile_cons_of_neg (by decide)
  rw [tokens, List.takeWhile_cons_of_neg (by decide)] at h
  · dsimp only at h
    split at h
    · cases h
    · rename_i hrun
      cases hrun
      split at h
      · cases h
      · rename_i hmore
        cases h
        exact ⟨_, hdrop ▸ hmore, rfl⟩
  · decide

/-- What is written for an element begins with its start tag, wherever lines are unified. -/
theorem exists_unifyLines_xml (h : tag.IsWritable) (content : List Node) :
    ∃ (closed : Bool) (rest : List Char), Text.unifyLines (Node.element tag content).xml.toList =
      '<' :: (tag.name.written.toList ++ (tag.values.flatMap writeValue ++
        ((if closed then "/>" else ">").toList ++ rest))) ∧ '\r' ∉ rest := by
  have hstart (closed : Bool) (rest : List Char) : Text.unifyLines ('<' :: (tag.name.written.toList ++
      (tag.values.flatMap writeValue ++ ((if closed then "/>" else ">").toList ++ rest)))) =
        '<' :: (tag.name.written.toList ++ (tag.values.flatMap writeValue ++
          ((if closed then "/>" else ">").toList ++ Text.unifyLines rest))) := by
    have hclear : '\r' ∉ tag.xml.toList ++ (if closed then "/>" else ">").toList := by
      rw [List.mem_append, not_or]
      exact ⟨not_mem_xml_tag h, by cases closed <;> decide⟩
    have := Text.unifyLines_append hclear rest
    rw [Tag.toList_xml h.pieces] at this
    simpa only [List.cons_append, List.append_assoc] using this
  cases content with
  | nil =>
    have hxml := toList_xml_nil h []
    rw [List.append_nil] at hxml
    exact ⟨true, _, (congrArg Text.unifyLines hxml).trans (hstart true _), Text.not_mem_unifyLines _⟩
  | cons n content =>
    have hxml := toList_xml_cons h n content []
    rw [List.append_nil] at hxml
    exact ⟨false, _, (congrArg Text.unifyLines hxml).trans (hstart false _), Text.not_mem_unifyLines _⟩

theorem root_of_ofChars {attributes : List (String × List Piece)} {closed : Bool} {found : List Token}
    {document : Document}
    (ht : tokens ('\n' :: cs) = .ok (.chars "\n" true :: .opening name attributes closed :: found))
    (h : Document.ofChars (xmlLine.toList ++ cs) = .ok document) :
    ∃ tag notices, resolveTag .none [] name attributes = .ok (tag, notices) ∧
      ((closed = true ∧ document.root = .element tag []) ∨
        ∃ noted rest, assemble .none [⟨name, tag, []⟩] notices.reverse found = .ok (document.root, noted, rest)) := by
  rw [Document.ofChars, readDeclaration_xmlLine, ok_bind] at h
  dsimp only at h
  rw [ht, ok_bind] at h
  change (resolveTag .none [] name attributes >>= _) = _ at h
  obtain ⟨⟨tag, notices⟩, htag, h⟩ := bind_eq_ok.mp h
  refine ⟨tag, notices, htag, ?_⟩
  dsimp only at h
  split at h
  · rename_i hclosed
    rw [ok_bind] at h
    exact .inl ⟨hclosed, root_of_verdict h⟩
  · obtain ⟨⟨root, noted, rest⟩, ha, h⟩ := bind_eq_ok.mp h
    have ha : assemble .none [⟨name, tag, []⟩] (notices.reverse ++ []) found = .ok (root, noted, rest) := ha
    rw [List.append_nil] at ha
    dsimp only at h
    rw [root_of_verdict h]
    exact .inr ⟨noted, rest, ha⟩

/-! ### Tidy nodes -/

theorem isChars_textPieces (run : String) : (textPieces run).all Piece.isChars := by
  unfold textPieces
  split <;> rfl

theorem all_isChars_tidyPieces (run : String) (pieces : List Piece) :
    (tidyPieces run pieces).all Piece.isChars = pieces.all Piece.isChars := by
  induction pieces generalizing run with
  | nil => exact isChars_textPieces run
  | cons piece pieces ih =>
    cases piece with
    | chars s => rw [tidyPieces, ih, List.all_cons, Piece.isChars, Bool.true_and]
    | reference name meaning =>
      rw [tidyPieces, List.all_append, isChars_textPieces, List.all_cons, List.all_cons, Piece.isChars,
        Bool.false_and, Bool.false_and, Bool.true_and]

theorem Attribute.value_tidy (a : Attribute) : a.tidy.value = a.value := by
  rw [Attribute.value, Attribute.tidy, value_tidyPieces, String.empty_append, Attribute.value]

theorem Tag.values_tidy (tag : Tag) : tag.tidy.values = tag.values := by
  rw [Tag.values, Tag.tidy, List.map_map, Tag.values]
  refine congrArg _ (List.map_congr_left fun a _ => ?_)
  rw [Function.comp_apply, Attribute.value_tidy]
  rfl

theorem Tag.IsWritable.of_tidy (h : tag.tidy.IsWritable) : tag.IsWritable where
  name := h.name
  values := tag.values_tidy ▸ h.values
  pieces a ha := by
    rw [← all_isChars_tidyPieces ""]
    exact h.pieces _ (List.mem_map_of_mem ha)

theorem Tag.IsResolved.of_tidy (h : tag.tidy.IsResolved scope) : tag.IsResolved scope where
  distinct := tag.values_tidy ▸ h.distinct
  declared := h.declared
  undeclared a ha := a.value_tidy ▸ h.undeclared _ (List.mem_map_of_mem ha)
  attributes a ha := h.attributes a.tidy (List.mem_map_of_mem ha)
  name := h.name

theorem isLegalText_of_textContent {run : String} (h : AreReadable scope (textContent run)) : isLegalText run := by
  unfold textContent at h
  split at h
  · rename_i hs
    rw [String.isEmpty_iff.mp hs]
    rfl
  · have := (areReadable_iff.mp h) _ List.mem_cons_self
    rwa [Node.IsReadable] at this

mutual

/-- A node can be read again if its tidy self can. -/
theorem Node.isReadable_of_tidy {scope : List (List Namespace)} :
    ∀ n : Node, n.tidy.IsReadable scope → n.IsReadable scope
  | .element tag content, h => by
    rw [Node.tidy, Node.IsReadable] at h
    obtain ⟨hd, hw, hr, hc⟩ := h
    rw [Node.IsReadable]
    exact ⟨hd, hw.of_tidy, hr.of_tidy, (areReadable_of_tidyContent content "" hc).2⟩
  | .text _, h => h
  | .comment _, h => h
  | .instruction _ _, h => h
  | .reference _, h => h

theorem areReadable_of_tidyContent {scope : List (List Namespace)} :
    ∀ (content : List Node) (run : String), AreReadable scope (tidyContent run content) →
      isLegalText run ∧ AreReadable scope content
  | [], run, h => by
    rw [tidyContent] at h
    rw [AreReadable]
    exact ⟨isLegalText_of_textContent h, trivial⟩
  | n :: content, run, h => by
    rw [AreReadable]
    cases hn : n.isText with
    | true =>
      obtain ⟨s, rfl⟩ := exists_of_isText hn
      rw [tidyContent] at h
      obtain ⟨hrun, hc⟩ := areReadable_of_tidyContent content (run ++ s) h
      rw [isLegalText_append, Bool.and_eq_true] at hrun
      rw [Node.IsReadable]
      exact ⟨hrun.1, hrun.2, hc⟩
    | false =>
      rw [tidyContent_cons hn, areReadable_iff, List.forall_mem_append, List.forall_mem_cons] at h
      obtain ⟨hrun, hfirst, hc⟩ := h
      exact ⟨isLegalText_of_textContent (areReadable_iff.mpr hrun), Node.isReadable_of_tidy n hfirst,
        (areReadable_of_tidyContent content "" (areReadable_iff.mpr hc)).2⟩

end

/-! ### Documents that are written -/

/-- **Whatever is read from what is written for an element can be read again.** -/
theorem isReadable_of_read {content : List Node} {document : Document} (hw : tag.IsWritable)
    (h : Document.read (Text.utf8 (xmlLine ++ (Node.element tag content).xml).toList) = .ok document) :
    document.root.IsReadable [] := by
  rw [String.toList_append, Document.read, decode_written, ok_bind] at h
  obtain ⟨document', hd, h⟩ := bind_eq_ok.mp h
  rw [if_neg Bool.false_ne_true] at h
  cases h
  obtain ⟨closed, rest, hxml, hr⟩ := exists_unifyLines_xml hw content
  rw [hxml] at hd
  have htokens : ∃ found, tokens ('\n' :: '<' :: (tag.name.written.toList ++
      (tag.values.flatMap writeValue ++ ((if closed then "/>" else ">").toList ++ rest)))) = .ok found := by
    rw [Document.ofChars, readDeclaration_xmlLine, ok_bind] at hd
    obtain ⟨found, hfound, -⟩ := bind_eq_ok.mp hd
    exact ⟨found, hfound⟩
  obtain ⟨found, hfound⟩ := htokens
  obtain ⟨more, hmore, rfl⟩ := tokens_lineFeed_eq_ok hfound
  obtain ⟨token, rest', found, hopening, hrest, rfl⟩ := tokens_marked_eq_ok hmore
  rw [readMarked_opening hw] at hopening
  cases hopening
  obtain ⟨tag', notices, htag, hroot⟩ := root_of_ofChars hfound hd
  have hvalues : ∀ v ∈ tag.values.map (fun v => (v.1, textPieces v.2)), isNameText v.1 ∧ IsReadValue v.2 := by
    refine List.forall_mem_map.mpr fun v hv => ?_
    exact ⟨(hw.values v hv).1, fun _ => ⟨v.2, (hw.values v hv).2, rfl⟩⟩
  have hreadable : tag'.IsReadable [] := ⟨by decide, isResolved_of_resolveTag hw.name hvalues htag⟩
  have hempty {scope : List (List Namespace)} : ∀ n ∈ ([] : List Node), n.IsReadable scope := List.forall_mem_nil _
  refine List.forall_mem_singleton.mp ?_
  rcases hroot with ⟨-, hroot⟩ | ⟨noted, after, ha⟩
  · rw [hroot]
    exact carries_isReadable.element hreadable hempty hempty
  · exact carries_isReadable.of_assemble ha ⟨⟨hreadable, hempty⟩, trivial⟩ (isRead_of_tokens hr hrest)

/-- **What is written for an element is read as that element**, tidied, exactly if it can be read again and
nothing that is remarked on in it is held against it. -/
theorem exists_read_written_iff {content : List Node} (hw : tag.IsWritable) :
    (∃ document, Document.read (Text.utf8 (xmlLine ++ (Node.element tag content).xml).toList) = .ok document ∧
        document.root = (Node.element tag content).tidy) ↔
      (Node.element tag content).IsReadable [] ∧ verdict ((Node.element tag content).notices []) = none := by
  constructor
  · rintro ⟨document, hread, hroot⟩
    have h : (Node.element tag content).IsReadable [] :=
      Node.isReadable_of_tidy _ (hroot ▸ isReadable_of_read hw hread)
    refine ⟨h, ?_⟩
    rw [read_written h] at hread
    cases hv : verdict ((Node.element tag content).notices []) with
    | none => rfl
    | some fault =>
      rw [hv] at hread
      cases hread
  · rintro ⟨h, hv⟩
    refine ⟨⟨(Node.element tag content).tidy, false⟩, ?_, rfl⟩
    rw [read_written h, hv]
    rfl

end ReleaseNotes.Markup
