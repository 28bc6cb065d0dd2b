import ReleaseNotes.Proofs.Spelling

/-!
# The tokens of what is written

A node that can be read again is read for the tokens that it is written in (`Node.tokens_xml`), and so is
content, with all text between two of its other nodes in one run (`tokens_content`).
-/

namespace ReleaseNotes.Markup

variable {c : Char} {cs rest : List Char} {s : String}

/-! ### What a less-than sign begins -/

theorem readUntil_append {mark : String} {m inner : List Char} (hmark : mark.toList = m) (hm : m ≠ [])
    (hl : inner.all isLegal) (hu : ¬ m <:+: inner ++ m.dropLast) (rest : List Char) :
    readUntil mark (inner ++ (m ++ rest)) = .ok (inner, rest) := by
  rw [readUntil, hmark, (cutAt?_eq_some_iff hm).mpr ⟨rfl, hu⟩]
  exact if_pos hl

/-- A comment is read as it was written. -/
theorem readMarked_comment (h : IsCommentText s) (rest : List Char) :
    readMarked ("!--".toList ++ (s.toList ++ ("-->".toList ++ rest))) = .ok (.comment s, rest) := by
  have hread : readUntil "--" (s.toList ++ (['-', '-'] ++ '>' :: rest)) = .ok (s.toList, '>' :: rest) :=
    readUntil_append (show "--".toList = ['-', '-'] from rfl) (List.cons_ne_nil _ _) h.legal h.unbroken _
  show readComment (s.toList ++ (['-', '-'] ++ '>' :: rest)) = _
  rw [readComment, hread, ok_bind]
  dsimp only
  rw [show needMark ">" ('>' :: rest) = .ok rest from needMark_append ">" rest, ok_bind, String.ofList_toList]

/-- An instruction is read as it was written. -/
theorem readMarked_instruction {target data : String} (h : IsInstructionText target data) (rest : List Char) :
    readMarked ('?' :: ((writeTarget target data).toList ++ ("?>".toList ++ rest))) =
      .ok (.instruction target data, rest) := by
  have hfree : ¬ (target == "xml") = true := by simpa using h.free
  show readInstruction _ = _
  by_cases hd : data.isEmpty
  · rw [writeTarget, if_pos hd, readInstruction, readName_append h.name _ (by rintro d ⟨⟩; decide), ok_bind]
    dsimp only
    rw [if_neg hfree, if_pos (by rfl), String.isEmpty_iff.mp hd]
    rfl
  · have hread : readUntil "?>" (data.toList ++ (['?', '>'] ++ rest)) = .ok (data.toList, rest) :=
      readUntil_append (show "?>".toList = ['?', '>'] from rfl) (List.cons_ne_nil _ _) h.legal h.unbroken _
    have hgap : needGap (' ' :: (data.toList ++ (['?', '>'] ++ rest))) =
        .ok (data.toList ++ (['?', '>'] ++ rest)) := by
      rw [needGap, if_pos (show isGap ' ' = true from rfl), skipGap]
      have hc := h.apart
      cases hdata : data.toList with
      | nil => rfl
      | cons c cs =>
        rw [hdata] at hc
        rw [List.cons_append, List.dropWhile_cons_of_neg (by simp [hc c rfl])]
    rw [writeTarget, if_neg hd, String.toList_append, String.toList_append, List.append_assoc, List.append_assoc,
      readInstruction, readName_append h.name _ (by rintro d ⟨⟩; decide), ok_bind]
    dsimp only
    rw [if_neg hfree, if_neg (by intro h; cases h)]
    show (needGap (' ' :: (data.toList ++ (['?', '>'] ++ rest))) >>= _) = _
    rw [hgap, ok_bind, hread, ok_bind, String.ofList_toList]

theorem readMarked_closing (h : isNameText s) (rest : List Char) :
    readMarked ('/' :: (s.toList ++ '>' :: rest)) = .ok (.closing s, rest) := by
  show readClosing _ = _
  rw [readClosing, readName_append h _ (by rintro d ⟨⟩; decide), ok_bind]
  dsimp only
  rw [show needMark ">" (skipGap ('>' :: rest)) = .ok rest from needMark_append ">" rest, ok_bind]

/-- A start tag is read as it was written. -/
theorem readMarked_opening {tag : Tag} (h : tag.IsWritable) (closed : Bool) (rest : List Char) :
    readMarked (tag.name.written.toList ++
        (tag.values.flatMap writeValue ++ ((if closed then "/>" else ">").toList ++ rest))) =
      .ok (.opening tag.name.written (tag.values.map fun v => (v.1, textPieces v.2)) closed, rest) := by
  have hopen (more : List Char) : readMarked (tag.name.written.toList ++ more) =
      readOpening (tag.name.written.toList ++ more) := by
    obtain ⟨c, cs, hs, hc, -⟩ := exists_of_isNameText h.name
    have hne (d : Char) (hd : isNameStart d = false) : d ≠ c := fun he =>
      Bool.false_ne_true (hd.symm.trans (he ▸ hc))
    have hmark (mark : List Char) : ('!' :: mark).isPrefixOf (c :: (cs ++ more)) = false := by
      rw [List.isPrefixOf_cons_cons, beq_eq_false_iff_ne.mpr (hne '!' (by decide)), Bool.false_and]
    rw [hs, List.cons_append, readMarked, show "!--".toList = '!' :: ['-', '-'] from rfl, hmark,
      show "![CDATA[".toList = '!' :: "[CDATA[".toList from rfl, hmark,
      show "!DOCTYPE".toList = '!' :: "DOCTYPE".toList from rfl, hmark]
    · rfl
    · exact fun _ he => hne '?' (by decide) (List.cons.inj he).1.symm
    · exact fun _ he => hne '/' (by decide) (List.cons.inj he).1.symm
  have hafter : ∀ d ∈ (tag.values.flatMap writeValue ++ ((if closed then "/>" else ">").toList ++ rest)).head?,
      isNameChar d = false := by
    cases tag.values with
    | nil => cases closed <;> (rintro d ⟨⟩; decide)
    | cons v values => rintro d ⟨⟩; decide
  rw [hopen, readOpening, readName_append h.name _ hafter, ok_bind]
  dsimp only
  rw [readAttributes_written h.values, ok_bind]

/-! ### Text -/

/-- The tokens of a text. -/
def textTokens (s : String) : List Token :=
  if s.isEmpty then [] else [.chars s (s.toList.all fun c => escapeText c == [c])]

theorem charTokens_letterOf (run : List Char) (asIs : Bool) (c : Char) (letters : List Letter) :
    charTokens run asIs (letterOf escapeText c :: letters) =
      charTokens (c :: run) (asIs && (escapeText c == [c])) letters := by
  rw [letterOf]
  split
  · rename_i he
    rw [charTokens, beq_iff_eq.mpr he, Bool.and_true]
  · rename_i he
    rw [charTokens, beq_eq_false_iff_ne.mpr he, Bool.and_false]

theorem charTokens_map_letterOf {run : List Char} (h : ¬ run.isEmpty) (asIs : Bool) (cs : List Char) :
    charTokens run asIs (cs.map (letterOf escapeText)) =
      [.chars (String.ofList (run.reverse ++ cs)) (asIs && cs.all fun c => escapeText c == [c])] := by
  induction cs generalizing run asIs with
  | nil => rw [List.map_nil, charTokens, if_neg h, List.append_nil, List.all_nil, Bool.and_true]
  | cons c cs ih =>
    rw [List.map_cons, charTokens_letterOf, ih (by simp), List.reverse_cons, List.append_assoc,
      List.singleton_append, List.all_cons, Bool.and_assoc]

/-- A text is read as it was written. -/
theorem readText_escaped (h : isLegalText s) (hs : ¬ s.isEmpty) :
    readText (s.toList.flatMap escapeText) = .ok (textTokens s) := by
  have hcut : cutAt? "]]>".toList (s.toList.flatMap escapeText) = none := by
    refine Option.eq_none_iff_forall_ne_some.mpr fun found hf => ?_
    obtain ⟨hin, -⟩ := (cutAt?_eq_some_iff (List.cons_ne_nil ']' [']', '>'])).mp hf
    refine isEscape_text.not_mem (by decide : '>' ∈ _) s.toList ?_
    rw [hin]
    exact List.mem_append_right _ (List.mem_append_left _ (by decide))
  rw [readText, hcut, isEscape_text.readLetters h, if_neg (by decide), ok_bind, textTokens, if_neg hs]
  cases hcs : s.toList with
  | nil => exact absurd (String.isEmpty_iff.mpr (String.toList_eq_nil_iff.mp hcs)) hs
  | cons c cs =>
    rw [List.map_cons, charTokens_letterOf, charTokens_map_letterOf (by simp), List.reverse_singleton,
      List.singleton_append, ← hcs, String.ofList_toList, hcs, List.all_cons, Bool.true_and]

/-! ### Nodes -/

theorem tokens_marked {token : Token} {more : List Token} (h : readMarked cs = .ok (token, rest))
    (hm : tokens rest = .ok more) : tokens ('<' :: cs) = .ok (token :: more) := by
  rw [tokens]
  split
  · rename_i hf
    cases h.symm.trans hf
  · rename_i hf
    cases h.symm.trans hf
    rw [hm]

theorem tokens_text {raw : List Char} {run more : List Token} (hraw : raw ≠ []) (hl : '<' ∉ raw)
    (hr : ∀ d ∈ rest.head?, d = '<') (h : readText raw = .ok run) (hm : tokens rest = .ok more) :
    tokens (raw ++ rest) = .ok (run ++ more) := by
  cases raw with
  | nil => exact absurd rfl hraw
  | cons c raw =>
    rw [List.mem_cons, not_or] at hl
    have hkept : ∀ d ∈ raw, (d != '<') = true := fun d hd => bne_iff_ne.mpr fun he => hl.2 (he ▸ hd)
    have htake : (raw ++ rest).takeWhile (· != '<') = raw := by
      rw [List.takeWhile_append_of_pos hkept]
      cases rest with
      | nil => exact List.append_nil _
      | cons d rest => rw [hr d rfl, List.takeWhile_cons_of_neg (by decide), List.append_nil]
    have hdrop : (raw ++ rest).dropWhile (· != '<') = rest := by
      rw [List.dropWhile_append_of_pos hkept]
      cases rest with
      | nil => rfl
      | cons d rest => rw [hr d rfl, List.dropWhile_cons_of_neg (by decide)]
    rw [List.cons_append, tokens, htake, h]
    · dsimp only
      rw [hdrop, hm]
    · exact fun he => hl.1 he.symm

mutual

/-- The tokens of a node as it is written. -/
def Node.written : Node → List Token
  | .element tag [] => [.opening tag.name.written (tag.values.map fun v => (v.1, textPieces v.2)) true]
  | .element tag (n :: rest) =>
    .opening tag.name.written (tag.values.map fun v => (v.1, textPieces v.2)) false ::
      (writtenContent "" (n :: rest) ++ [.closing tag.name.written])
  | .text s => textTokens s
  | .comment s => [.comment s]
  | .instruction target data => [.instruction target data]
  | .reference name => [.reference name]

/-- The tokens of some content after a text as they are written. -/
def writtenContent (run : String) : List Node → List Token
  | [] => textTokens run
  | .text s :: rest => writtenContent (run ++ s) rest
  | .element tag content :: rest =>
    textTokens run ++ (Node.element tag content).written ++ writtenContent "" rest
  | .comment s :: rest => textTokens run ++ .comment s :: writtenContent "" rest
  | .instruction target data :: rest => textTokens run ++ .instruction target data :: writtenContent "" rest
  | .reference name :: rest => textTokens run ++ .reference name :: writtenContent "" rest

end

theorem tokens_run {run : String} {more : List Token} (h : isLegalText run) (hr : ∀ d ∈ rest.head?, d = '<')
    (hm : tokens rest = .ok more) :
    tokens (run.toList.flatMap escapeText ++ rest) = .ok (textTokens run ++ more) := by
  by_cases hs : run.isEmpty
  · rw [textTokens, if_pos hs, String.isEmpty_iff.mp hs]
    exact hm
  · have hraw : run.toList.flatMap escapeText ≠ [] := fun he => by
      have hread := readText_escaped h hs
      rw [he, textTokens, if_neg hs] at hread
      cases hread
    exact tokens_text hraw (isEscape_text.not_mem (by decide) _) hr (readText_escaped h hs) hm

theorem toList_escaped (escape : Char → List Char) (s : String) :
    (escaped escape s).toList = s.toList.flatMap escape :=
  String.toList_ofList

theorem xml_of_isChars {pieces : List Piece} (h : pieces.all Piece.isChars) :
    (String.join (pieces.map Piece.xml)).toList =
      (String.join (pieces.map Piece.reading)).toList.flatMap escapeValue := by
  induction pieces with
  | nil => rfl
  | cons piece pieces ih =>
    rw [List.all_cons, Bool.and_eq_true] at h
    cases piece with
    | chars s =>
      rw [List.map_cons, List.map_cons, String.join_cons, String.join_cons, String.toList_append,
        String.toList_append, List.flatMap_append, ih h.2, Piece.xml, toList_escaped, Piece.reading]
    | reference name meaning => cases h.1

theorem Attribute.toList_xml {a : Attribute} (h : a.pieces.all Piece.isChars) :
    a.xml.toList = writeValue (a.name.written, a.value) := by
  rw [Attribute.xml, writeValue, Attribute.value]
  simp [xml_of_isChars h]

theorem Namespace.toList_xml (n : Namespace) : n.xml.toList = writeValue (n.written, n.uri) := by
  rw [Namespace.xml, writeValue, Namespace.written]
  cases n.short? <;> simp [toList_escaped]

/-- A start tag is written as its name and its values. -/
theorem Tag.toList_xml {tag : Tag} (h : ∀ a ∈ tag.attributes, a.pieces.all Piece.isChars) :
    tag.xml.toList = '<' :: (tag.name.written.toList ++ tag.values.flatMap writeValue) := by
  have hdeclared : (tag.declared.map Namespace.xml).flatMap String.toList =
      (tag.declared.map fun n => (n.written, n.uri)).flatMap writeValue := by
    rw [List.flatMap_map, List.flatMap_map]
    exact List.flatMap_congr fun n _ => n.toList_xml
  have hattributes : (tag.attributes.map Attribute.xml).flatMap String.toList =
      (tag.attributes.map fun a => (a.name.written, a.value)).flatMap writeValue := by
    rw [List.flatMap_map, List.flatMap_map]
    exact List.flatMap_congr fun a ha => Attribute.toList_xml (h a ha)
  rw [Tag.xml, Tag.values, List.flatMap_append, ← hdeclared, ← hattributes]
  simp only [String.toList_append, String.toList_join, List.append_assoc]
  rfl

theorem xmlOfAll_cons (n : Node) (content : List Node) : xmlOfAll (n :: content) = n.xml ++ xmlOfAll content := by
  rw [xmlOfAll]

theorem toList_xml_cons {tag : Tag} (h : tag.IsWritable) (n : Node) (content : List Node) (rest : List Char) :
    (Node.element tag (n :: content)).xml.toList ++ rest = '<' :: (tag.name.written.toList ++
      (tag.values.flatMap writeValue ++ ((if false then "/>" else ">").toList ++
        ((xmlOfAll (n :: content)).toList ++ '<' :: '/' :: (tag.name.written.toList ++ '>' :: rest))))) := by
  rw [Node.xml, xmlOfAll, Tag.ending]
  simp [Tag.toList_xml h.pieces]

theorem toList_xml_nil {tag : Tag} (h : tag.IsWritable) (rest : List Char) :
    (Node.element tag []).xml.toList ++ rest = '<' :: (tag.name.written.toList ++
      (tag.values.flatMap writeValue ++ ((if true then "/>" else ">").toList ++ rest))) := by
  rw [Node.xml]
  simp [Tag.toList_xml h.pieces]

theorem toList_writeComment (s : String) (rest : List Char) :
    (writeComment s).toList ++ rest = '<' :: ("!--".toList ++ (s.toList ++ ("-->".toList ++ rest))) := by
  simp [writeComment]

theorem toList_writeInstruction (s : String) (rest : List Char) :
    ("<?" ++ s ++ "?>").toList ++ rest = '<' :: '?' :: (s.toList ++ ("?>".toList ++ rest)) := by
  simp

theorem exists_of_isText {n : Node} (h : n.isText = true) : ∃ s, n = .text s := by
  cases n with
  | text s => exact ⟨s, rfl⟩
  | _ => cases h

theorem writtenContent_cons {n : Node} (hn : n.isText = false) (run : String) (content : List Node) :
    writtenContent run (n :: content) = textTokens run ++ (n.written ++ writtenContent "" content) := by
  cases n with
  | text s => cases hn
  | element tag inner => rw [writtenContent, List.append_assoc]
  | comment s => rw [writtenContent, Node.written, List.singleton_append]
  | instruction target data => rw [writtenContent, Node.written, List.singleton_append]
  | reference name => rw [writtenContent, Node.written, List.singleton_append]

/-- What is written for a node other than text begins with a less-than sign. -/
theorem head_xml {scope : List (List Namespace)} {n : Node} (hn : n.isText = false) (h : n.IsReadable scope)
    (rest : List Char) : ∀ d ∈ (n.xml.toList ++ rest).head?, d = '<' := by
  cases n with
  | text s => cases hn
  | element tag content =>
    rw [Node.IsReadable] at h
    cases content with
    | nil =>
      rw [toList_xml_nil h.2.1]
      rintro d ⟨⟩
      rfl
    | cons n content =>
      rw [toList_xml_cons h.2.1]
      rintro d ⟨⟩
      rfl
  | comment s =>
    rw [Node.xml, toList_writeComment]
    rintro d ⟨⟩
    rfl
  | instruction target data =>
    rw [Node.xml, toList_writeInstruction]
    rintro d ⟨⟩
    rfl
  | reference name =>
    rw [Node.IsReadable] at h
    exact h.elim

mutual

/-- A node that can be read again is read for the tokens that it is written in. -/
theorem Node.tokens_xml {scope : List (List Namespace)} {rest : List Char} {more : List Token}
    (hm : tokens rest = .ok more) : ∀ n : Node, n.isText = false → n.IsReadable scope →
      tokens (n.xml.toList ++ rest) = .ok (n.written ++ more)
  | .element tag [], _, h => by
    rw [Node.IsReadable] at h
    rw [toList_xml_nil h.2.1, Node.written]
    exact tokens_marked (readMarked_opening h.2.1 true rest) hm
  | .element tag (n :: content), _, h => by
    rw [Node.IsReadable] at h
    obtain ⟨-, hw, -, hc⟩ := h
    rw [toList_xml_cons hw, Node.written, List.cons_append, List.append_assoc]
    refine tokens_marked (readMarked_opening hw false _) ?_
    exact tokens_content (n :: content) "" rfl hc (by rintro d ⟨⟩; rfl)
      (tokens_marked (readMarked_closing hw.name rest) hm)
  | .text s, hn, _ => by cases hn
  | .comment s, _, h => by
    rw [Node.IsReadable] at h
    rw [Node.xml, toList_writeComment, Node.written]
    exact tokens_marked (readMarked_comment h rest) hm
  | .instruction target data, _, h => by
    rw [Node.IsReadable] at h
    rw [Node.xml, toList_writeInstruction, Node.written]
    exact tokens_marked (readMarked_instruction h rest) hm
  | .reference name, _, h => by
    rw [Node.IsReadable] at h
    exact h.elim

/-- Content that can be read again, after a text, is read for the tokens that it is written in. -/
theorem tokens_content {scope : List (List Namespace)} {rest : List Char} {more : List Token} :
    ∀ (content : List Node) (run : String), isLegalText run → AreReadable scope content →
      (∀ d ∈ rest.head?, d = '<') → tokens rest = .ok more →
        tokens (run.toList.flatMap escapeText ++ ((xmlOfAll content).toList ++ rest)) =
          .ok (writtenContent run content ++ more)
  | [], run, hrun, _, hr, hm => by
    rw [writtenContent]
    exact tokens_run hrun hr hm
  | n :: content, run, hrun, h, hr, hm => by
    rw [AreReadable] at h
    cases hn : n.isText with
    | true =>
      obtain ⟨s, rfl⟩ := exists_of_isText hn
      rw [Node.IsReadable] at h
      have hs : isLegalText (run ++ s) := by
        rw [isLegalText_append, hrun, h.1]
        rfl
      have hmore := tokens_content content (run ++ s) hs h.2 hr hm
      rw [String.toList_append, List.flatMap_append, List.append_assoc] at hmore
      rwa [writtenContent, xmlOfAll_cons, Node.xml, String.toList_append, toList_escaped, List.append_assoc]
    | false =>
      have hrest := tokens_content content "" rfl h.2 hr hm
      have hnode := Node.tokens_xml hrest n hn h.1
      rw [writtenContent_cons hn, xmlOfAll_cons, String.toList_append, List.append_assoc, List.append_assoc,
        List.append_assoc]
      exact tokens_run hrun (head_xml hn h.1 _) hnode

end

end ReleaseNotes.Markup
