import ReleaseNotes.Proofs.Addition
import ReleaseNotes.Proofs.Sound

/-!
# Copies of content

All that sources hold is copied to the end of an element, one source after the other. A source is an element of
another tree or one of the same tree that the target does not lie in, an ancestor of it or not. If the sources
are as documents are read (`Node.IsSound`), then the marks of the target come to be its own followed by those of
the sources, each exactly once, and nothing else changes (`content_grows_by_copies`).

A copy of a copy may be unsound: a copy gives up the declarations that it finds around it, and a name then finds
its prefix declared anew between them and itself.
-/

namespace ReleaseNotes.Markup

variable {content given more : List Node} {here p q : Place} {n m : Node} {tag : Tag} {inner : List Node}
  {g g' : List Node → List Node} {work : Editing Unit}

/-! ### Copies at the end -/

/-- The text that stands directly in some content, its runs joined in order. -/
def textOf (content : List Node) : String :=
  String.join (content.map Node.ownText)

theorem textOf_append (content more : List Node) : textOf (content ++ more) = textOf content ++ textOf more := by
  rw [textOf, List.map_append, String.join_append]
  rfl

theorem textOf_appendText (content : List Node) (s : String) :
    textOf (appendText content s) = textOf content ++ s := by
  have htext (t : String) : textOf [.text t] = t := by simp [textOf, Node.ownText]
  unfold appendText
  split
  · next hs => rw [String.isEmpty_iff.mp hs, String.append_empty]
  · split
    · next t ht =>
      obtain ⟨before, rfl⟩ := List.getLast?_eq_some_iff.mp ht
      rw [List.dropLast_concat, textOf_append, textOf_append, htext, htext, String.append_assoc]
    · rw [textOf_append, htext]

theorem textOf_appendContent (content more : List Node) :
    textOf (appendContent content more) = textOf content ++ textOf more := by
  unfold appendContent
  split
  · next s more =>
    rw [textOf_append, textOf_appendText, String.append_assoc]
    simp [textOf, Node.ownText]
  · exact textOf_append content _

/-- A change of content that adds what is given at the end, copied, and keeps all that stands before it. -/
structure AddsCopies (given : List Node) (g : List Node → List Node) : Prop where
  marks (content : List Node) : marksOf (g content) = marksOf content ++ marksOf given
  text (content : List Node) : textOf (g content) = textOf content ++ textOf given
  stays {content : List Node} {q : Place} {m : Node} :
    nodeAt? content q = some m → nodeAt? (g content) q = some m

theorem AddsCopies.id : AddsCopies [] fun content => content where
  marks _ := (List.append_nil _).symm
  text _ := String.append_empty.symm
  stays h := h

theorem AddsCopies.comp (h : AddsCopies given g) (h' : AddsCopies more g') :
    AddsCopies (given ++ more) fun content => g' (g content) where
  marks content := by rw [h'.marks, h.marks, marksOf_append, List.append_assoc]
  text content := by rw [h'.text, h.text, textOf_append, String.append_assoc]
  stays hm := h'.stays (h.stays hm)

theorem AddsCopies.appendText (s : String) : AddsCopies [.text s] (Markup.appendText · s) where
  marks content := by rw [marksOf_appendText, marksOf_singleton, Node.marks]
  text content := by
    rw [textOf_appendText]
    simp [textOf, Node.ownText]
  stays hm := by rwa [nodeAt?_congr (childAt?_appendText _ s)]

theorem ownText_copied_grafted (n : Node) (around : List Tag) : (n.copied.grafted around).ownText = n.ownText := by
  cases n with
  | element tag content =>
    rw [Node.copied, Node.forgetful]
    dsimp only
    rw [Node.grafted, Graft.settle]
    rfl
  | _ => rfl

theorem AddsCopies.appendContent (h : ∀ n ∈ given, ∃ outer, n.IsScoped outer) (around : List Tag) :
    AddsCopies given (Markup.appendContent · (copiedContent around given)) := by
  have hmarks : marksOf (copiedContent around given) = marksOf given := by
    induction given with
    | nil => rfl
    | cons n given ih =>
      obtain ⟨⟨outer, hn⟩, h⟩ := List.forall_mem_cons.mp h
      rw [copiedContent, List.map_cons, marksOf, marks_copied_grafted hn, marksOf]
      exact congrArg (n.marks ++ ·) (ih h)
  have htext : textOf (copiedContent around given) = textOf given := by
    rw [textOf, copiedContent, List.map_map]
    exact congrArg String.join (List.map_congr_left fun n _ => ownText_copied_grafted n around)
  exact ⟨fun content => by rw [marksOf_appendContent, hmarks], fun content => by rw [textOf_appendContent, htext],
    fun hm => nodeAt?_appendContent hm _⟩

/-- Copied to where nothing stood, what a sound element holds comes to hold the same marks and the same text. -/
theorem holds_same_of_copyUnder {outer : List Namespace} (h : (Node.element tag content).IsSound outer)
    (around : List Tag) : marksOf (copyUnder around (.element tag content)) = marksOf content ∧
      textOf (copyUnder around (.element tag content)) = textOf content := by
  have hscoped := h.names
  rw [Node.IsScoped] at hscoped
  have hadds : AddsCopies content (Markup.appendContent · (copiedContent around content)) :=
    .appendContent (fun m hm => ⟨_, areScoped_iff.mp hscoped.2 m hm⟩) around
  exact ⟨hadds.marks [], (hadds.text []).trans String.empty_append⟩

/-! ### Runs -/

/-- `work` adds copies of what is given at the end of the element at `here`, and does nothing else. -/
def Clones (here : Place) (work : Editing Unit) (given content : List Node) : Prop :=
  ∃ g, AddsCopies given g ∧ outcome work content = (.ok (), changeAt (Node.mapContent g) content here)

theorem Clones.nothing (here : Place) (content : List Node) : Clones here (pure ()) [] content :=
  ⟨_, .id, congrArg (Prod.mk _) (changeAt_self fun n _ => by cases n <;> rfl).symm⟩

/-- What is left to do after copies have been added adds more of them. -/
theorem Clones.bind (h : Clones here work given content) (next : Unit → Editing Unit)
    (hn : ∀ g, AddsCopies given g → Clones here (next ()) more (changeAt (Node.mapContent g) content here)) :
    Clones here (work >>= next) (given ++ more) content := by
  obtain ⟨g, hg, hw⟩ := h
  obtain ⟨g', hg', hn⟩ := hn g hg
  refine ⟨_, hg.comp hg', ?_⟩
  rw [outcome_bind_of_ok hw, hn, changeAt_changeAt fun n hn => isText_mapContent_of_nodeAt? hn]
  exact congrArg (Prod.mk _) (changeAt_congr fun n _ => Node.mapContent_mapContent g g' n)

/-- The target stays an element. -/
theorem AddsCopies.nodeAt?_here (he : nodeAt? content here = some (.element tag inner)) :
    nodeAt? (changeAt (Node.mapContent g) content here) here = some (.element tag (g inner)) :=
  nodeAt?_changeAt_self he rfl

/-- A node that the target does not lie in stays as it is. -/
theorem AddsCopies.nodeAt?_of_not_prefix (h : AddsCopies given g) (hm : nodeAt? content q = some m)
    (hq : ¬ q <+: here) : nodeAt? (changeAt (Node.mapContent g) content here) q = some m := by
  refine nodeAt?_changeAt_of_not_prefix hm hq fun n hn => ⟨isText_mapContent_of_nodeAt? hn, fun r k hk => ?_⟩
  cases n with
  | element tag inner => exact h.stays hk
  | _ => exact hk

theorem clones_addCopied (he : nodeAt? content here = some (.element tag inner))
    (h : ∀ n ∈ given, ∃ outer, n.IsScoped outer) : Clones here (addCopied here given) given content := by
  refine ⟨_, .appendContent h (tag :: tagsAround content here), ?_⟩
  rw [addCopied, outcome_bind_of_ok (outcome_get content), he]
  rfl

theorem outcome_addText {s : String} (he : nodeAt? content here = some (.element tag inner)) (hs : isLegalText s) :
    outcome (addText here s) content =
      (.ok (), changeAt (Node.mapContent (Markup.appendText · s)) content here) := by
  unfold addText
  split
  · next hempty =>
    refine congrArg (Prod.mk _) (changeAt_self fun n _ => ?_).symm
    cases n with
    | element tag inner =>
      rw [Node.mapContent, appendText, if_pos hempty]
    | _ => rfl
  · rw [outcome_bind, nodeHere, outcome_bind_of_ok (outcome_get content), he]
    rfl

theorem childWithTail_subset (content : List Node) (i : Nat) : childWithTail content i ⊆ content := by
  induction content generalizing i with
  | nil => exact List.Subset.refl _
  | cons n content ih =>
    unfold childWithTail
    split
    · exact List.subset_cons_of_subset _ (ih i)
    · cases i with
      | zero => exact List.cons_subset_cons _ (List.takeWhile_sublist _).subset
      | succ i => exact List.subset_cons_of_subset _ (ih i)

/-- Copying children of a node, one after the other, leaves that node as it is. -/
theorem clones_addChildrenOf (he : nodeAt? content here = some (.element tag inner))
    (hp : nodeAt? content p = some n) (hout : ¬ p <+: here) (h : ∀ m ∈ n.content, ∃ outer, m.IsScoped outer)
    (i left : Nat) :
    Clones here (addChildrenOf here p i left) ((List.range' i left).flatMap (childWithTail n.content)) content := by
  induction left generalizing i content inner with
  | zero => exact .nothing here content
  | succ left ih =>
    rw [List.range'_succ, List.flatMap_cons]
    have hfirst : Clones here (nodeHere p >>= fun n => addCopied here (childWithTail n.content i))
        (childWithTail n.content i) content := by
      obtain ⟨g, hg, hrun⟩ := clones_addCopied he fun m hm => h m (childWithTail_subset n.content i hm)
      refine ⟨g, hg, ?_⟩
      have hnode : outcome (nodeHere p) content = (.ok n, content) := by
        rw [nodeHere, outcome_bind_of_ok (outcome_get content), hp]
        rfl
      rw [outcome_bind_of_ok hnode, hrun]
    have hrest := hfirst.bind (fun _ => addChildrenOf here p (i + 1) left) fun g hg =>
      ih (AddsCopies.nodeAt?_here he) (hg.nodeAt?_of_not_prefix hp hout) (i + 1)
    rw [bind_assoc] at hrest
    exact hrest

/-- The text before the first child and the children with the text after them are all of some content. -/
theorem takeWhile_append_children (content : List Node) :
    content.takeWhile Node.isText ++ (List.range' 0 (childCount content)).flatMap (childWithTail content) =
      content := by
  induction content with
  | nil => rfl
  | cons n content ih =>
    cases hn : n.isText with
    | true =>
      have hchild : childWithTail (n :: content) = childWithTail content := by
        funext i
        simp [childWithTail, hn]
      rw [List.takeWhile_cons_of_pos hn, childCount_cons_of_isText hn, hchild, List.cons_append, ih]
    | false =>
      have hzero : childWithTail (n :: content) 0 = n :: content.takeWhile Node.isText := by
        simp [childWithTail, hn]
      have hsucc (i : Nat) : childWithTail (n :: content) (1 + i) = childWithTail content i := by
        simp [childWithTail, hn, Nat.add_comm 1 i]
      have hrange : List.range' (0 + 1) (childCount content) = (List.range' 0 (childCount content)).map (1 + ·) :=
        (List.map_add_range' 0 (childCount content) 1).symm
      rw [List.takeWhile_cons_of_neg (by rw [hn]; exact Bool.false_ne_true), childCount_cons hn, List.range'_succ,
        List.flatMap_cons, hzero, hrange, List.flatMap_map]
      simp only [hsucc, List.nil_append, List.cons_append, ih]

/-- Where no two runs of text stand side by side, the text that content begins with is one run, if any. -/
theorem AddsCopies.leadingText (h : AreApart content) (tag : Tag) :
    AddsCopies (content.takeWhile Node.isText)
      (Markup.appendText · (Node.element tag content).leadingText) := by
  cases content with
  | nil => exact .id
  | cons n content =>
    cases n with
    | text s =>
      have htail : content.takeWhile Node.isText = [] := by
        cases content with
        | nil => rfl
        | cons m content =>
          have hm : ¬ m.isText := fun hm => (List.isChain_cons_cons.mp h).1 ⟨rfl, hm⟩
          exact List.takeWhile_cons_of_neg hm
      rw [List.takeWhile_cons_of_pos rfl, htail]
      exact .appendText s
    | _ => exact .id

theorem isLegalText_leadingText {held : List Node} (h : (Node.element tag held).HasLegalText) :
    isLegalText (Node.element tag held).leadingText := by
  cases held with
  | nil => rfl
  | cons n held =>
    cases n with
    | text s =>
      refine h (.text s) ?_
      rw [Node.family, familyOfAll]
      exact List.mem_cons_of_mem _ (List.mem_append_left _ (Node.mem_family _))
    | _ => rfl

theorem clones_addCopyOf {t : Tag} {held : List Node} {outer : List Namespace}
    (he : nodeAt? content here = some (.element tag inner)) (hp : nodeAt? content p = some (.element t held))
    (hout : ¬ p <+: here) (h : (Node.element t held).IsSound outer) :
    Clones here (addCopyOf here p) held content := by
  have hfirst : Clones here (addText here (Node.element t held).leadingText) (held.takeWhile Node.isText) content :=
    ⟨_, .leadingText (h.apart _ (Node.mem_family _)) t, outcome_addText he (isLegalText_leadingText h.legal)⟩
  have hscoped := h.names
  rw [Node.IsScoped] at hscoped
  have hall := hfirst.bind (fun _ => addChildrenOf here p 0 (childCount held)) fun g hg =>
    clones_addChildrenOf (AddsCopies.nodeAt?_here he) (hg.nodeAt?_of_not_prefix hp hout) hout
      (fun m hm => ⟨_, areScoped_iff.mp hscoped.2 m hm⟩) 0 (childCount held)
  rw [Node.content, takeWhile_append_children] at hall
  obtain ⟨g, hg, hrun⟩ := hall
  refine ⟨g, hg, ?_⟩
  rw [addCopyOf, outcome_bind_of_ok (outcome_get content), hp]
  exact hrun

/-! ### Sources -/

/-- Where the content comes from that is copied. -/
inductive Source where
  /-- A node of another tree. -/
  | elsewhere (n : Node)
  /-- The node at a place of the same tree. -/
  | inside (place : Place)

/-- The node that a source is. -/
def Source.node? (content : List Node) : Source → Option Node
  | .elsewhere n => some n
  | .inside place => nodeAt? content place

/-- The content of the node that a source is. -/
def Source.held (content : List Node) (s : Source) : List Node :=
  ((s.node? content).map Node.content).getD []

/-- Adds a copy of all that a source holds. -/
def Source.clone (here : Place) : Source → Editing Unit
  | .elsewhere n => addCopy here n
  | .inside place => addCopyOf here place

/-- Adds copies of all that some sources hold, one source after the other. -/
def cloneAll (here : Place) (sources : List Source) : Editing Unit :=
  sources.forM (Source.clone here)

/-- A source is a sound element that the node at `here` neither is nor lies in. -/
structure Source.Suits (here : Place) (content : List Node) (s : Source) : Prop where
  outside : ∀ place, s = .inside place → ¬ place <+: here
  sound : ∃ tag held outer, s.node? content = some (.element tag held) ∧ (Node.element tag held).IsSound outer

variable {s : Source} {sources : List Source}

theorem Source.held_of_node? {held : List Node} (h : s.node? content = some (.element tag held)) :
    s.held content = held := by
  rw [Source.held, h]
  rfl

theorem Source.Suits.clones (hs : s.Suits here content) (he : nodeAt? content here = some (.element tag inner)) :
    Clones here (s.clone here) (s.held content) content := by
  obtain ⟨t, held, outer, hn, hsound⟩ := hs.sound
  rw [Source.held_of_node? hn]
  cases s with
  | elsewhere n =>
    cases hn
    have hscoped := hsound.names
    rw [Node.IsScoped] at hscoped
    refine ⟨_, .appendContent (fun m hm => ⟨_, areScoped_iff.mp hscoped.2 m hm⟩) _, outcome_addCopy he _⟩
  | inside place => exact clones_addCopyOf he hn (hs.outside place rfl) hsound

/-- Copies that are added leave every source as it is that the target does not lie in. -/
theorem AddsCopies.node?_eq (hg : AddsCopies given g) (hs : s.Suits here content) :
    s.node? (changeAt (Node.mapContent g) content here) = s.node? content := by
  obtain ⟨t, held, outer, hn, -⟩ := hs.sound
  cases s with
  | elsewhere n => rfl
  | inside place =>
    rw [hn]
    exact hg.nodeAt?_of_not_prefix hn (hs.outside place rfl)

theorem clones_cloneAll (he : nodeAt? content here = some (.element tag inner))
    (hs : ∀ s ∈ sources, s.Suits here content) :
    Clones here (cloneAll here sources) (sources.flatMap fun s => s.held content) content := by
  induction sources generalizing content inner with
  | nil => exact .nothing here content
  | cons s sources ih =>
    obtain ⟨hfirst, hs⟩ := List.forall_mem_cons.mp hs
    rw [List.flatMap_cons]
    refine (hfirst.clones he).bind (fun _ => cloneAll here sources) fun g hg => ?_
    have hsame : ∀ s ∈ sources, s.node? (changeAt (Node.mapContent g) content here) = s.node? content :=
      fun s hm => hg.node?_eq (hs s hm)
    have hgiven : (sources.flatMap fun s => s.held content) =
        sources.flatMap fun s => s.held (changeAt (Node.mapContent g) content here) := by
      refine List.flatMap_congr fun s hm => ?_
      rw [Source.held, Source.held, hsame s hm]
    rw [hgiven]
    refine ih (AddsCopies.nodeAt?_here he) fun s hm => ⟨(hs s hm).outside, ?_⟩
    rw [hsame s hm]
    exact (hs s hm).sound

/-- **Copies are faithful.** If all that sound sources hold is copied to the end of an element, one source after
the other, then the marks and the direct text of the element come to be its own followed by those of the sources.
What stood in the element stands there as before, and nothing changes anywhere else, the sources included. -/
theorem content_grows_by_copies (he : nodeAt? content here = some (.element tag inner))
    (hs : ∀ s ∈ sources, s.Suits here content) : ∃ inner',
      outcome (cloneAll here sources) content = (.ok (), changeAt (fun _ => .element tag inner') content here) ∧
      marksOf inner' = marksOf inner ++ sources.flatMap (fun s => marksOf (s.held content)) ∧
      (Node.element tag inner').directText =
        (Node.element tag inner).directText ++ String.join (sources.map fun s => textOf (s.held content)) ∧
      (∀ q m, nodeAt? inner q = some m → nodeAt? inner' q = some m) ∧
      ∀ s ∈ sources, s.node? (changeAt (fun _ => .element tag inner') content here) = s.node? content := by
  obtain ⟨g, hg, hrun⟩ := clones_cloneAll he hs
  have hchange : changeAt (Node.mapContent g) content here =
      changeAt (fun _ => .element tag (g inner)) content here :=
    changeAt_congr fun n hn => by
      rw [he, Option.some.injEq] at hn
      rw [← hn]
      rfl
  have hmarks (l : List Source) :
      marksOf (l.flatMap fun s => s.held content) = l.flatMap fun s => marksOf (s.held content) := by
    induction l with
    | nil => rfl
    | cons s l ih => rw [List.flatMap_cons, List.flatMap_cons, marksOf_append, ih]
  have htext (l : List Source) :
      textOf (l.flatMap fun s => s.held content) = String.join (l.map fun s => textOf (s.held content)) := by
    induction l with
    | nil => rfl
    | cons s l ih => rw [List.flatMap_cons, List.map_cons, textOf_append, ih, String.join_cons]
  refine ⟨g inner, by rw [hrun, hchange], by rw [hg.marks, hmarks], (hg.text inner).trans (by rw [htext]; rfl),
    fun q m hm => hg.stays hm, fun s hm => ?_⟩
  rw [← hchange]
  exact hg.node?_eq (hs s hm)

/-- An element is copied into the one that it stands in, after the content of another tree. -/
theorem content_grows_by_copies_of_child :
    let child : Node := .element (.plain "p" []) [.text "b", .comment "c", .text "d"]
    let other : Node := .element (.plain "x" []) [.text "e", .reference "f", .text "g"]
    let content : List Node := [.element (.plain "r" []) [.text "a", child]]
    ∃ inner', outcome (cloneAll [0] [.elsewhere other, .inside [0, 0]]) content =
        (.ok (), changeAt (fun _ => .element (.plain "r" []) inner') content [0]) ∧
      marksOf inner' = marksOf [.text "a", child] ++ (marksOf other.content ++ marksOf child.content) := by
  intro child other content
  have hplain (label : String) : (Tag.plain label []).IsScoped [] :=
    ⟨.nil, List.not_mem_nil, fun a ha => absurd ha List.not_mem_nil⟩
  have hchild : child.IsSound [] := by
    refine isSound_element (hplain "p") (by simp [AreApart, Node.isText]) ?_
    simp only [List.forall_mem_cons]
    exact ⟨isSound_text rfl, isSound_leaf (by rw [Node.family]) rfl trivial rfl, isSound_text rfl,
      List.forall_mem_nil _⟩
  have hother : other.IsSound [] := by
    refine isSound_element (hplain "x") (by simp [AreApart, Node.isText]) ?_
    simp only [List.forall_mem_cons]
    exact ⟨isSound_text rfl, isSound_leaf (by rw [Node.family]) rfl trivial rfl, isSound_text rfl,
      List.forall_mem_nil _⟩
  have hsources : ∀ s ∈ [Source.elsewhere other, .inside [0, 0]], s.Suits [0] content := by
    have houtside : ∀ place, Source.inside [0, 0] = .inside place → ¬ place <+: [0] := by
      rintro place hp
      cases hp
      decide
    simp only [List.forall_mem_cons]
    exact ⟨⟨fun place h => Source.noConfusion h, _, _, _, rfl, hother⟩, ⟨houtside, _, _, _, rfl, hchild⟩,
      List.forall_mem_nil _⟩
  obtain ⟨inner', hrun, hmarks, -⟩ := content_grows_by_copies (rfl : nodeAt? content [0] = some _) hsources
  exact ⟨inner', hrun, hmarks⟩

/-- The second of two copies, each of the one before, has another element in it than the first. In the first, the
prefix of the innermost element is declared again between it and the declaration that it uses. -/
theorem marks_copy_of_copy :
    let z : Node := .element ⟨⟨some ⟨some "p", "u"⟩, "z"⟩, [], []⟩ []
    let w : Node := .element ⟨.plain "w", [⟨some "p", "u"⟩], []⟩
      [.element ⟨.plain "y", [⟨some "q", "v"⟩], []⟩ [z]]
    let content : List Node := [.element ⟨.plain "r", [⟨some "q", "u"⟩], []⟩
      [.element (.plain "a" []) [], .element (.plain "b" []) []]]
    let run := outcome (cloneAll [0, 0] [.elsewhere (.element (.plain "x" []) [w])] >>= fun _ =>
      cloneAll [0, 1] [.inside [0, 0]]) content
    run.1 = .ok () ∧ (nodeAt? run.2 [0, 0]).map (marksOf ·.content) = some w.marks ∧
      (nodeAt? run.2 [0, 1]).map (marksOf ·.content) ≠ some w.marks := by
  refine ⟨rfl, ?_, ?_⟩ <;> decide

end ReleaseNotes.Markup
