import ReleaseNotes.Proofs.Decoding
import ReleaseNotes.Proofs.Written

/-!
# The tree of what is written

The tokens that a node is written in are put together to its tidy self: each tag is made again of what is
written in it (`resolveTag_written`), each element closes where it should (`Node.assemble_written`), and
nothing but a remark can make a reader refuse the document that an element is written in (`read_written`).
-/

namespace ReleaseNotes.Markup

/-! ### Tags -/

variable {scope : List (List Namespace)} {tag : Tag}

/-- What a document without a document type says about entities. -/
def Entities.none : Entities :=
  ⟨.absent, false⟩

theorem explain_textPieces (s : String) : Entities.none.explain (textPieces s) = .ok (textPieces s, []) := by
  unfold textPieces
  split
  · rfl
  · rfl

theorem firstRepeated?_eq_none_iff {α : Type} [BEq α] [LawfulBEq α] {l : List α} :
    firstRepeated? l = Option.none ↔ l.Nodup := by
  induction l with
  | nil => simp [firstRepeated?]
  | cons x l ih =>
    rw [firstRepeated?, List.nodup_cons, ← ih]
    by_cases hx : x ∈ l
    · simp [hx]
    · simp [hx]

theorem tidyPieces_of_isChars {pieces : List Piece} (h : pieces.all Piece.isChars) (run : String) :
    tidyPieces run pieces = textPieces (run ++ String.join (pieces.map Piece.reading)) := by
  induction pieces generalizing run with
  | nil => simp [tidyPieces]
  | cons piece pieces ih =>
    rw [List.all_cons, Bool.and_eq_true] at h
    cases piece with
    | chars s => rw [tidyPieces, ih h.2, List.map_cons, String.join_cons, String.append_assoc, Piece.reading]
    | reference name meaning => cases h.1

theorem Attribute.tidy_of_isChars {a : Attribute} (h : a.pieces.all Piece.isChars) :
    a.tidy = ⟨a.name, textPieces a.value⟩ := by
  rw [Attribute.tidy, tidyPieces_of_isChars h, String.empty_append, Attribute.value]

theorem mapM_eq_ok {α β ε : Type} {f : α → Except ε β} {g : α → β} {l : List α} (h : ∀ a ∈ l, f a = .ok (g a)) :
    l.mapM f = .ok (l.map g) :=
  mapM_eq_ok_iff_forall₂.mpr (List.forall₂_map_right_iff.mpr (List.forall₂_same.mpr h))

/-- Of what is written in a tag, the declarations are taken as they are. -/
theorem declarations_written (h : tag.IsResolved scope) :
    (tag.values.map fun v => (v.1, textPieces v.2, ([] : List Notice))).filterMap
        (fun entry => declare? entry.1 entry.2.1) =
      tag.declared.map fun n => (some n, n.notices) := by
  have hdeclared : ∀ n ∈ tag.declared, declare? n.written (textPieces n.uri) = some (some n, n.notices) := by
    intro n hn
    obtain ⟨⟨m?, notices⟩, hd, rfl⟩ := Option.map_eq_some_iff.mp (h.declared n hn)
    rw [Namespace.notices, hd]
    rfl
  rw [List.filterMap_map, Tag.values, List.filterMap_append, List.filterMap_map, List.filterMap_map]
  refine (congrArg₂ _ (List.filterMap_congr hdeclared)
    (List.filterMap_eq_nil_iff.mpr h.undeclared)).trans ?_
  rw [List.append_nil, List.filterMap_eq_map']

/-- Of what is written in a tag, all but the declarations are attributes. -/
theorem attributes_written (h : tag.IsResolved scope) :
    (tag.values.map fun v => (v.1, textPieces v.2, ([] : List Notice))).filter
        (fun entry => (declare? entry.1 entry.2.1).isNone) =
      tag.attributes.map fun a => (a.name.written, textPieces a.value, []) := by
  rw [Tag.values, List.map_append, List.map_map, List.map_map, List.filter_append,
    List.filter_eq_nil_iff.mpr, List.filter_eq_self.mpr, List.nil_append]
  · rfl
  · intro entry he
    obtain ⟨a, ha, rfl⟩ := List.mem_map.mp he
    exact Option.isNone_iff_eq_none.mpr (h.undeclared a ha)
  · intro entry he
    obtain ⟨n, hn, rfl⟩ := List.mem_map.mp he
    obtain ⟨found, hd, -⟩ := Option.map_eq_some_iff.mp (h.declared n hn)
    dsimp only [Function.comp_apply]
    rw [hd]
    exact Bool.false_ne_true

/-- A tag that can be read again is made again of what is written in it. -/
theorem resolveTag_written (h : tag.IsWritable) (hr : tag.IsResolved scope) :
    resolveTag .none scope tag.name.written (tag.values.map fun v => (v.1, textPieces v.2)) =
      .ok (tag.tidy, tag.notices scope) := by
  have hnames : (tag.values.map fun v => (v.1, textPieces v.2)).map Prod.fst = tag.values.map Prod.fst := by
    rw [List.map_map]
    rfl
  have hattributes : tag.attributes.map (fun a => Attribute.mk
      (resolveAttribute (tag.declared :: scope) a.name.written).1 (textPieces a.value)) =
        tag.attributes.map Attribute.tidy :=
    List.map_congr_left fun a ha => by rw [hr.attributes a ha, Attribute.tidy_of_isChars (h.pieces a ha)]
  have hidentities : tag.attributes.map (fun a =>
      (resolveAttribute (tag.declared :: scope) a.name.written).1.identity) =
        tag.attributes.map (·.name.identity) :=
    List.map_congr_left fun a ha => by rw [hr.attributes a ha]
  have hplain : (tag.values.map fun _ => ([] : List Notice)).flatten = [] :=
    List.flatten_eq_nil_iff.mpr fun l hl => (List.mem_map.mp hl).elim fun _ h => h.2.symm
  rw [resolveTag, hnames, firstRepeated?_eq_none_iff.mpr hr.distinct]
  dsimp only
  rw [mapM_eq_ok (g := fun entry => (entry.1, entry.2, [])), List.map_map, ok_bind]
  · have hdeclarations := declarations_written hr
    have hothers := attributes_written hr
    simp only [Function.comp_def, hdeclarations, hothers, List.filterMap_map, List.map_map, List.filterMap_some]
    rw [hattributes, hidentities, hplain, hr.name, List.nil_append, Tag.notices, Tag.repetition,
      List.flatMap_def, List.flatMap_def, Tag.tidy]
    cases firstRepeated? (tag.attributes.map (·.name.identity)) <;> rfl
  · intro entry he
    obtain ⟨v, -, rfl⟩ := List.mem_map.mp he
    dsimp only
    rw [explain_textPieces, ok_bind]

/-! ### Content -/

variable {o : Opened} {outer : List Opened} {noted : List Notice} {more : List Token}

theorem pushText_of_not_isText {before : List Node} (h : ∀ n ∈ before.head?, n.isText = false) (s : String) :
    pushText before s = .text s :: before := by
  unfold pushText
  split
  · exact absurd (h _ rfl) (by simp [Node.isText])
  · rfl

theorem assemble_text {written : String} {before : List Node} (h : ∀ n ∈ before.head?, n.isText = false)
    (run : String) :
    assemble .none (⟨written, tag, before⟩ :: outer) noted (textTokens run ++ more) =
      assemble .none (⟨written, tag, (textContent run).reverse ++ before⟩ :: outer) noted more := by
  unfold textTokens textContent
  split
  · rfl
  · rw [List.singleton_append, assemble]
    dsimp only
    rw [pushText_of_not_isText h]
    rfl

theorem tidyContent_cons {n : Node} (hn : n.isText = false) (run : String) (content : List Node) :
    tidyContent run (n :: content) = textContent run ++ n.tidy :: tidyContent "" content := by
  cases n with
  | text s => cases hn
  | element tag inner => rw [tidyContent]
  | comment s => rw [tidyContent, Node.tidy]
  | instruction target data => rw [tidyContent, Node.tidy]
  | reference name => rw [tidyContent, Node.tidy]

theorem isText_tidy (n : Node) : n.tidy.isText = n.isText := by
  cases n <;> rfl

mutual

/-- The tokens that a node is written in are put together to its tidy self. -/
theorem Node.assemble_written {written : String} {t : Tag} {outer : List Opened} {more : List Token} :
    ∀ (n : Node) (before : List Node) (noted : List Notice), n.isText = false →
      n.IsReadable (t.declared :: outer.map (·.tag.declared)) →
        assemble .none (⟨written, t, before⟩ :: outer) noted (n.written ++ more) =
          assemble .none (⟨written, t, n.tidy :: before⟩ :: outer)
            ((n.notices (t.declared :: outer.map (·.tag.declared))).reverse ++ noted) more
  | .element tag [], before, noted, _, h => by
    rw [Node.IsReadable] at h
    obtain ⟨hd, hw, hr, -⟩ := h
    rw [List.length_cons, List.length_map] at hd
    rw [Node.written, List.singleton_append, assemble]
    dsimp only
    rw [if_neg (Nat.not_le.mpr hd), List.map_cons, resolveTag_written hw hr, ok_bind]
    dsimp only
    rw [if_pos rfl, Node.tidy, tidyContent, Node.notices, noticesOfAll, List.append_nil]
    rfl
  | .element tag (n :: content), before, noted, _, h => by
    rw [Node.IsReadable] at h
    obtain ⟨hd, hw, hr, hc⟩ := h
    rw [List.length_cons, List.length_map] at hd
    rw [Node.written, List.cons_append, List.append_assoc, List.singleton_append, assemble]
    dsimp only
    rw [if_neg (Nat.not_le.mpr hd), List.map_cons, resolveTag_written hw hr, ok_bind]
    dsimp only
    rw [if_neg Bool.false_ne_true, assemble_content (n :: content) "" [] _ (fun _ h => by cases h) hc,
      List.append_nil, assemble]
    dsimp only
    rw [if_pos (beq_self_eq_true _), List.reverse_reverse, Node.tidy, Node.notices, List.reverse_append,
      List.append_assoc]
    rfl
  | .text s, _, _, hn, _ => by cases hn
  | .comment s, before, noted, _, _ => by
    rw [Node.written, List.singleton_append, assemble]
    rfl
  | .instruction target data, before, noted, _, _ => by
    rw [Node.written, List.singleton_append, assemble]
    rfl
  | .reference name, _, _, _, h => by
    rw [Node.IsReadable] at h
    exact h.elim

/-- The tokens that content is written in are put together to that content, tidied. -/
theorem assemble_content {written : String} {t : Tag} {outer : List Opened} {more : List Token} :
    ∀ (content : List Node) (run : String) (before : List Node) (noted : List Notice),
      (∀ n ∈ before.head?, n.isText = false) →
      AreReadable (t.declared :: outer.map (·.tag.declared)) content →
        assemble .none (⟨written, t, before⟩ :: outer) noted (writtenContent run content ++ more) =
          assemble .none (⟨written, t, (tidyContent run content).reverse ++ before⟩ :: outer)
            ((noticesOfAll (t.declared :: outer.map (·.tag.declared)) content).reverse ++ noted) more
  | [], run, before, noted, hb, _ => by
    rw [writtenContent, tidyContent, noticesOfAll]
    exact assemble_text hb run
  | n :: content, run, before, noted, hb, h => by
    rw [AreReadable] at h
    cases hn : n.isText with
    | true =>
      obtain ⟨s, rfl⟩ := exists_of_isText hn
      rw [writtenContent, tidyContent, noticesOfAll, Node.notices, List.nil_append]
      exact assemble_content content (run ++ s) before noted hb h.2
    | false =>
      have hfirst : ∀ m ∈ (n.tidy :: ((textContent run).reverse ++ before)).head?, m.isText = false := by
        rintro m ⟨⟩
        rw [isText_tidy, hn]
      rw [writtenContent_cons hn, tidyContent_cons hn, noticesOfAll, List.append_assoc, assemble_text hb,
        List.append_assoc, Node.assemble_written n _ noted hn h.1,
        assemble_content content "" _ _ hfirst h.2]
      simp only [List.reverse_append, List.reverse_cons, List.append_assoc, List.cons_append, List.nil_append]

end

/-! ### Documents -/

theorem tokens_page {content : List Node} (h : (Node.element tag content).IsReadable []) :
    tokens ('\n' :: (Node.element tag content).xml.toList) =
      .ok (.chars "\n" true :: (Node.element tag content).written) := by
  have hpage := Node.tokens_xml (show tokens [] = .ok [] by rw [tokens]) (.element tag content) rfl h
  rw [List.append_nil, List.append_nil] at hpage
  have hhead := head_xml rfl h []
  rw [List.append_nil] at hhead
  have hgap : readText ['\n'] = .ok [.chars "\n" true] := rfl
  rw [← List.singleton_append, tokens_text (List.cons_ne_nil '\n' []) (by decide) hhead hgap hpage,
    List.singleton_append]

/-- **An element that can be read again is read from the document that it is written in**, unless what a
reader remarks on in it is held against it. -/
theorem ofChars_written {content : List Node} (h : (Node.element tag content).IsReadable []) :
    Document.ofChars (xmlLine.toList ++ (Node.element tag content).xml.toList) =
      (verdict ((Node.element tag content).notices [])).elim (.ok ⟨(Node.element tag content).tidy, false⟩)
        .error := by
  rw [Document.ofChars, readDeclaration_xmlLine, ok_bind]
  dsimp only
  rw [tokens_page h, ok_bind]
  rw [Node.IsReadable] at h
  obtain ⟨-, hw, hr, hc⟩ := h
  cases content with
  | nil =>
    rw [Node.written]
    show (resolveTag .none [] tag.name.written _ >>= _) = _
    rw [resolveTag_written hw hr, ok_bind]
    dsimp only
    rw [if_pos rfl, ok_bind, Node.tidy, tidyContent, Node.notices, noticesOfAll]
    show (if ([] : List Token).all isOutside then _ else _) = _
    rw [List.all_nil, if_pos rfl]
    simp only [outsideNotices, List.reverse_nil, List.append_nil, List.reverse_reverse, List.map_nil,
      List.flatten_nil]
    cases verdict (tag.notices []) <;> rfl
  | cons n content =>
    have hassembled : assemble .none [⟨tag.name.written, tag.tidy, []⟩] (tag.notices []).reverse
        (writtenContent "" (n :: content) ++ [.closing tag.name.written]) =
          .ok ((Node.element tag (n :: content)).tidy,
            ((Node.element tag (n :: content)).notices []).reverse, []) := by
      rw [assemble_content (n :: content) "" [] _ (fun _ h => by cases h) hc, assemble]
      dsimp only
      rw [if_pos (beq_self_eq_true _), List.append_nil, List.reverse_reverse, Node.tidy, Node.notices,
        List.reverse_append]
      rfl
    rw [Node.written]
    show (resolveTag .none [] tag.name.written _ >>= _) = _
    rw [resolveTag_written hw hr, ok_bind]
    show (assemble .none [⟨tag.name.written, tag.tidy, []⟩] ((tag.notices []).reverse ++ []) _ >>= _) = _
    rw [List.append_nil, hassembled, ok_bind]
    show (if ([] : List Token).all isOutside then _ else _) = _
    rw [List.all_nil, if_pos rfl]
    simp only [List.map_nil, List.flatten_nil, List.append_nil, List.reverse_reverse]
    cases verdict ((Node.element tag (n :: content)).notices []) <;> rfl

/-! ### Octets -/

theorem not_mem_isNameText {s : String} (h : isNameText s) : '\r' ∉ s.toList := by
  obtain ⟨c, cs, -, -, hall⟩ := exists_of_isNameText h
  exact fun hm => absurd (hall _ hm) (by decide)

theorem not_mem_xml_tag (h : tag.IsWritable) : '\r' ∉ tag.xml.toList := by
  rw [Tag.toList_xml h.pieces, List.mem_cons, List.mem_append, List.mem_flatMap]
  rintro (hc | hm | ⟨v, hv, hm⟩)
  · cases hc
  · exact not_mem_isNameText h.name hm
  · simp only [writeValue, List.mem_cons, List.mem_append, List.not_mem_nil, or_false] at hm
    rcases hm with hc | hm | hc | hc | hm | hc
    · cases hc
    · exact not_mem_isNameText (h.values v hv).1 hm
    · cases hc
    · cases hc
    · exact isEscape_value.not_mem (by decide) _ hm
    · cases hc

mutual

/-- No carriage return is written as itself. -/
theorem Node.not_mem_xml {scope : List (List Namespace)} : ∀ n : Node, n.IsReadable scope → '\r' ∉ n.xml.toList
  | .element tag [], h => by
    rw [Node.IsReadable] at h
    simp [Node.xml, not_mem_xml_tag h.2.1]
  | .element tag (n :: content), h => by
    rw [Node.IsReadable, AreReadable] at h
    simp [Node.xml, Tag.ending, not_mem_xml_tag h.2.1, not_mem_isNameText h.2.1.name,
      Node.not_mem_xml n h.2.2.2.1, not_mem_xmlOfAll content h.2.2.2.2]
  | .text s, _ => by
    rw [Node.xml, toList_escaped]
    exact isEscape_text.not_mem (by decide) _
  | .comment s, h => by
    rw [Node.IsReadable] at h
    simp [Node.xml, writeComment, h.noReturn]
  | .instruction target data, h => by
    rw [Node.IsReadable] at h
    rw [Node.xml, writeTarget]
    split <;> simp [not_mem_isNameText h.name, h.noReturn]
  | .reference name, h => by
    rw [Node.IsReadable] at h
    exact h.elim

theorem not_mem_xmlOfAll {scope : List (List Namespace)} :
    ∀ content : List Node, AreReadable scope content → '\r' ∉ (xmlOfAll content).toList
  | [], _ => by simp [xmlOfAll]
  | n :: content, h => by
    rw [AreReadable] at h
    simp [xmlOfAll, Node.not_mem_xml n h.1, not_mem_xmlOfAll content h.2]

end

theorem unifyLines_eq_self {cs : List Char} (h : '\r' ∉ cs) : Text.unifyLines cs = cs := by
  have := Text.unifyLines_append h []
  rwa [Text.unifyLines, List.append_nil] at this

/-- **An element that can be read again is read from the octets that it is written in.** -/
theorem read_written {content : List Node} (h : (Node.element tag content).IsReadable []) :
    Document.read (Text.utf8 (xmlLine ++ (Node.element tag content).xml).toList) =
      (verdict ((Node.element tag content).notices [])).elim (.ok ⟨(Node.element tag content).tidy, false⟩)
        .error := by
  rw [String.toList_append, Document.read, decode_written, unifyLines_eq_self (Node.not_mem_xml _ h), ok_bind]
  dsimp only
  rw [ofChars_written h]
  cases verdict ((Node.element tag content).notices []) <;> rfl

end ReleaseNotes.Markup
