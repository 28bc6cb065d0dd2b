import ReleaseNotes.Pamphlet.Basic
import ReleaseNotes.Proofs.Growth
import ReleaseNotes.Proofs.Layout
import ReleaseNotes.Proofs.Run

/-!
# Additions

What each of the additions to a pamphlet does. On an element it either comes to a result, with one
known run of nodes added at the end of the element, or fails, with something added there
(`AddsOn`); on anything else it fails and changes nothing. Both are put together in `Adds`. An
addition that goes on inside the node that it has just added is an addition of that node as it is in
the end (`AddsOn.inside`).
-/

namespace ReleaseNotes

open Markup

variable {α β : Type} {content content' content'' : List Node} {here p q : Place} {m n : Node}
  {tag : Tag} {inner new new' : List Node} {f g : Node → Node}

/-! ### Changes that only add -/

/-- A change of a node adds at its end only: the node grows, and all nodes in it stay. -/
def AddsAtEnd (f : Node → Node) : Prop :=
  ∀ n, n.GrowsTo (f n) ∧ ∀ q m, nodeAt? n.content q = some m → nodeAt? (f n).content q = some m

theorem AddsAtEnd.isText (h : AddsAtEnd f) (n : Node) : (f n).isText = n.isText := (h n).1.isText_eq

theorem AddsAtEnd.id : AddsAtEnd fun n => n := fun n => ⟨.refl n, fun _ _ h => h⟩

theorem AddsAtEnd.comp (hg : AddsAtEnd g) (hf : AddsAtEnd f) : AddsAtEnd fun n => g (f n) :=
  fun n => ⟨(hf n).1.trans (hg (f n)).1, fun q m h => (hg (f n)).2 q m ((hf n).2 q m h)⟩

theorem AddsAtEnd.append (new : List Node) : AddsAtEnd (Node.mapContent (· ++ new)) := by
  refine fun n => ⟨.mapContent (fun c => .append c new) n, fun q m h => ?_⟩
  cases n with
  | element tag inner => exact nodeAt?_append_of_some h new
  | _ => exact h

/-- Content with something added at the end of what stands at a place. -/
def AddedAt (here : Place) (content content' : List Node) : Prop :=
  ∃ f, AddsAtEnd f ∧ content' = changeAt f content here

theorem AddedAt.refl (here : Place) (content : List Node) : AddedAt here content content :=
  ⟨_, .id, (changeAt_self fun _ _ => rfl).symm⟩

theorem AddedAt.appendAt (here : Place) (new content : List Node) :
    AddedAt here content (appendAt here new content) :=
  ⟨_, .append new, rfl⟩

theorem AddedAt.trans (h : AddedAt here content content') (h' : AddedAt here content' content'') :
    AddedAt here content content'' := by
  obtain ⟨f, hf, rfl⟩ := h
  obtain ⟨g, hg, rfl⟩ := h'
  exact ⟨_, hg.comp hf, changeAt_changeAt fun n hn => (hf.isText n).trans (isText_of_nodeAt? hn)⟩

theorem AddedAt.grows (h : AddedAt here content content') : Grows content content' := by
  obtain ⟨f, hf, rfl⟩ := h
  exact .changeAt fun n _ => (hf n).1

/-- What is added at a place leaves every node as it was that the place is not in. -/
theorem AddedAt.nodeAt?_of_not_prefix (h : AddedAt here content content')
    (hm : nodeAt? content q = some m) (hq : ¬ q <+: here) : nodeAt? content' q = some m := by
  obtain ⟨f, hf, rfl⟩ := h
  exact nodeAt?_changeAt_of_not_prefix hm hq fun n hn =>
    ⟨(hf.isText n).trans (isText_of_nodeAt? hn), (hf n).2⟩

/-- What is no element does not become one. -/
theorem AddedAt.ne_element (h : AddedAt here content content')
    (hne : ∀ tag inner, nodeAt? content here ≠ some (.element tag inner)) (tag : Tag) (inner : List Node) :
    nodeAt? content' here ≠ some (.element tag inner) := by
  obtain ⟨f, hf, rfl⟩ := h
  cases hn : nodeAt? content here with
  | none =>
    rw [changeAt_self fun m hm => by simp [hn] at hm, hn]
    nofun
  | some n =>
    rw [nodeAt?_changeAt_self hn ((hf.isText n).trans (isText_of_nodeAt? hn)), Ne, Option.some.injEq]
    intro he
    have ht : n.tag? = some tag := by rw [← (hf n).1.tag?_eq, he]; rfl
    cases n with
    | element tag' inner' => exact hne tag' inner' hn
    | _ => cases ht

/-! ### The additions -/

/-- On an element, `work` adds `new` at its end and comes to `result`, given the number of
children before, or it fails with something added there. -/
def AddsOn (here : Place) (work : Editing α) (new : List Node) (result : Nat → α) : Prop :=
  ∀ content tag inner, nodeAt? content here = some (.element tag inner) →
    outcome work content = (.ok (result (childCount inner)), appendAt here new content) ∨
    ∃ fault content', outcome work content = (.error fault, content') ∧ AddedAt here content content'

/-- `work` comes to `result` only on an element, at whose end it then has added `new`; if it fails
something may have been added there. -/
def Adds (here : Place) (work : Editing α) (new : List Node) (result : Nat → α) : Prop :=
  ∀ content,
    (∃ tag inner, nodeAt? content here = some (.element tag inner) ∧
      outcome work content = (.ok (result (childCount inner)), appendAt here new content)) ∨
    ∃ fault content', outcome work content = (.error fault, content') ∧ AddedAt here content content'

theorem Adds.of_addsOn {work : Editing α} {result : Nat → α} (h : AddsOn here work new result)
    (hn : ∀ content, (∀ tag inner, nodeAt? content here ≠ some (.element tag inner)) →
      ∃ fault, outcome work content = (.error fault, content)) :
    Adds here work new result := by
  intro content
  by_cases he : ∃ tag inner, nodeAt? content here = some (.element tag inner)
  · obtain ⟨tag, inner, he⟩ := he
    exact (h content tag inner he).imp (fun h => ⟨tag, inner, he, h⟩) id
  · obtain ⟨fault, hf⟩ := hn content fun tag inner h => he ⟨tag, inner, h⟩
    exact .inr ⟨fault, content, hf, .refl here content⟩

theorem Adds.addedAt {work : Editing α} {result : Nat → α} (h : Adds here work new result)
    (content : List Node) : AddedAt here content (outcome work content).2 := by
  rcases h content with ⟨tag, inner, -, ho⟩ | ⟨fault, content', ho, ha⟩
  · rw [ho]
    exact .appendAt here new content
  · rw [ho]
    exact ha

theorem AddsOn.pure (here : Place) (a : α) : AddsOn here (pure a) [] fun _ => a :=
  fun content _ _ _ => .inl (by rw [appendAt_nil]; rfl)

theorem AddsOn.bind {work : Editing α} {result : Nat → α} {f : α → Editing β} {result' : Nat → β}
    (h : AddsOn here work new result)
    (hn : ∀ k, AddsOn here (f (result k)) new' fun _ => result' k) :
    AddsOn here (work >>= f) (new ++ new') result' := by
  intro content tag inner he
  rcases h content tag inner he with hok | ⟨fault, content', hf, ha⟩
  · rw [outcome_bind_of_ok hok]
    rcases hn (childCount inner) _ tag _ (nodeAt?_appendAt he new) with hok' | ⟨fault, content', hf, ha⟩
    · exact .inl (by rw [hok', appendAt_appendAt])
    · exact .inr ⟨fault, content', hf, (AddedAt.appendAt here new content).trans ha⟩
  · exact .inr ⟨fault, content', outcome_bind_of_error hf, ha⟩

/-- Work whose result is put aside. -/
theorem AddsOn.andThen_pure {work : Editing α} {result : Nat → α} (h : AddsOn here work new result)
    (b : β) : AddsOn here (work >>= fun _ => Pure.pure b) new fun _ => b := by
  simpa using h.bind (f := fun _ => Pure.pure b) fun _ => .pure here b

theorem outcome_addNode (he : nodeAt? content here = some (.element tag inner)) (n : Node) :
    outcome (addNode here n) content = (.ok (here ++ [childCount inner]), appendAt here [n] content) := by
  have hh : outcome (nodeHere here) content = (.ok (.element tag inner), content) := by
    rw [nodeHere, outcome_bind_of_ok (outcome_get content), he]
    rfl
  rw [addNode, outcome_bind_of_ok hh]
  rfl

theorem outcome_addNode_of_ne (he : ∀ tag inner, nodeAt? content here ≠ some (.element tag inner))
    (n : Node) : ∃ fault, outcome (addNode here n) content = (.error fault, content) := by
  rw [addNode, outcome_bind, nodeHere, outcome_bind_of_ok (outcome_get content)]
  cases h : nodeAt? content here with
  | none => exact ⟨_, rfl⟩
  | some m =>
    cases m with
    | element tag inner => exact absurd h (he tag inner)
    | _ => exact ⟨_, rfl⟩

theorem addsOn_addNode (here : Place) (n : Node) :
    AddsOn here (addNode here n) [n] fun k => here ++ [k] :=
  fun _ _ _ he => .inl (outcome_addNode he n)

/-- Work that goes on inside the element that it has just added. -/
theorem AddsOn.inside {next : Place → Editing α} {r : Nat → Nat → α}
    (h : ∀ k, AddsOn (here ++ [k]) (next (here ++ [k])) new (r k)) :
    AddsOn here (addNode here (.element tag inner) >>= next) [.element tag (inner ++ new)]
      fun k => r k (childCount inner) := by
  intro content tag' inner' he
  have hi : nodeAt? (appendAt here [.element tag inner] content) (here ++ [childCount inner']) =
      some (.element tag inner) := nodeAt?_appendAt_child he rfl []
  rw [outcome_bind_of_ok (outcome_addNode he _)]
  rcases h (childCount inner') _ tag inner hi with hok | ⟨fault, content', hf, f, ha, rfl⟩
  · left
    rw [hok, appendAt, changeAt_appendAt he rfl]
    rfl
  · refine .inr ⟨fault, _, hf, ?_⟩
    rw [changeAt_appendAt he rfl]
    exact .appendAt here _ content

/-- Work that begins with a text which may be refused. -/
theorem AddsOn.of_except {made : Except EditFault β} {next : β → Editing α} {result : Nat → α}
    (h : ∀ b, made = .ok b → AddsOn here (next b) new result) :
    AddsOn here (liftM made >>= next) new result := by
  intro content tag inner he
  cases made with
  | ok b => exact h b rfl content tag inner he
  | error fault => exact .inr ⟨fault, content, rfl, .refl here content⟩

theorem outcome_attach_of_element (he : nodeAt? content here = some (.element tag inner)) (n : Node) :
    outcome (attach here n) content = outcome (addNode here n) content := by
  rw [attach, outcome_bind_of_ok (outcome_get content), he]

theorem adds_addNode (here : Place) (n : Node) : Adds here (addNode here n) [n] fun k => here ++ [k] :=
  .of_addsOn (addsOn_addNode here n) fun _ he => outcome_addNode_of_ne he n

theorem textElement_eq_ok {e : PageElement} {s : String} (h : textElement e s = .ok n) :
    n = Layout.holder e [.text s] := by
  unfold textElement at h
  split at h
  · exact (Except.ok.inj h).symm
  · cases h

theorem link_eq_ok {address s : String} (h : link address s = .ok n) : n = Layout.linked address s := by
  unfold link at h
  split at h
  · exact (Except.ok.inj h).symm
  · cases h

/-- A paragraph that a document cannot hold adds nothing. -/
theorem outcome_addParagraph (he : nodeAt? content here = some (.element tag inner)) (s : String) :
    outcome (addParagraph here s) content = if isLegalText s then
        (.ok (here ++ [childCount inner]), appendAt here [Layout.paragraph s] content)
      else (.error .illegalText, content) := by
  rw [addParagraph, textElement]
  cases isLegalText s with
  | true => exact (outcome_attach_of_element he _).trans (outcome_addNode he _)
  | false => rfl

theorem adds_addParagraph (here : Place) (s : String) :
    Adds here (addParagraph here s) [Layout.paragraph s] fun k => here ++ [k] := by
  refine .of_addsOn (fun content tag inner he => ?_) fun content hne => ?_
  · rw [outcome_addParagraph he]
    split
    · exact .inl rfl
    · exact .inr ⟨_, _, rfl, .refl here content⟩
  · rw [addParagraph, outcome_bind]
    cases textElement .paragraph s with
    | error fault => exact ⟨fault, rfl⟩
    | ok n =>
      show ∃ fault, outcome (attach here n) content = _
      rw [attach, outcome_bind_of_ok (outcome_get content)]
      cases h : nodeAt? content here with
      | none => exact ⟨_, rfl⟩
      | some m => exact outcome_addNode_of_ne hne n

/-- Work that begins with a node added to what is no element fails at once. -/
theorem Adds.of_addNode_bind {next : Place → Editing α} {result : Nat → α}
    (h : AddsOn here (addNode here n >>= next) new result) :
    Adds here (addNode here n >>= next) new result := by
  refine .of_addsOn h fun content he => ?_
  obtain ⟨fault, hf⟩ := outcome_addNode_of_ne he n
  exact ⟨fault, outcome_bind_of_error hf⟩

theorem adds_addItem (list : Place) (n : Node) :
    Adds list (addItem list n) [Layout.holder .item [n]] fun k => list ++ [k] := by
  exact .of_addNode_bind
    (.inside (r := fun k _ => list ++ [k]) fun k => (addsOn_addNode _ n).andThen_pure _)

theorem outcome_changeHere (here : Place) (f : Node → Node) (content : List Node) :
    outcome (changeHere here f) content = (.ok (), changeAt f content here) := rfl

/-- Nodes put at the end of an element by a change of it. -/
theorem addsOn_changeHere (here : Place) (new : List Node) (a : α) :
    AddsOn here (changeHere here (Node.mapContent (· ++ new)) >>= fun _ => pure a) new fun _ => a :=
  fun _ _ _ _ => .inl rfl

/-- Work that is done only if a text is legal. -/
theorem AddsOn.of_legal {b : Bool} {work : Editing α} {result : Nat → α} {fault : EditFault}
    (h : AddsOn here work new result) :
    AddsOn here (if b = true then work else throw fault) new result := by
  cases b with
  | true => exact h
  | false => exact fun content _ _ _ => .inr ⟨fault, content, rfl, .refl here content⟩

theorem adds_addLabelled (list : Place) (label s : String) :
    Adds list (addLabelled list label s) [Layout.labelled label s] fun k => list ++ [k] := by
  refine .of_addNode_bind
    (.inside (r := fun k _ => list ++ [k]) fun k => .of_except fun bold hb => .of_legal ?_)
  rw [textElement_eq_ok hb]
  exact addsOn_changeHere _ _ _

theorem addsOn_addTextCell (row : Place) (s : String) :
    AddsOn row (addTextCell row s) [Layout.holder .column [.text s]] fun k => row ++ [k] :=
  .inside (r := fun k _ => row ++ [k]) fun _ => .of_legal (addsOn_changeHere _ _ _)

/-! ### Tables -/

theorem addsOn_addHeadings (row : Place) (headings : List String) :
    AddsOn row (addHeadings row headings)
      (headings.map fun h => Layout.holder .column [Layout.holder .bold [.text h]]) fun _ => () := by
  induction headings with
  | nil => exact .pure row ()
  | cons h headings ih =>
    have hc : AddsOn row (addCell row >>= fun cell => liftM (boldText h) >>= fun bold => addNode cell bold)
        [Layout.holder .column [Layout.holder .bold [.text h]]] fun k => row ++ [k] ++ [0] :=
      .inside (r := fun k i => row ++ [k] ++ [i]) fun k => .of_except fun bold hb => by
        rw [textElement_eq_ok hb]
        exact addsOn_addNode _ _
    have := hc.bind (f := fun _ => addHeadings row headings) fun _ => ih
    simpa [addHeadings, bind_assoc] using this

/-- The element of a table before it has rows. -/
theorem outcome_addTable (he : nodeAt? content here = some (.element tag inner)) (border : Int)
    (headings : List String) :
    outcome (addTable here border headings) content = match Text.decimal? border with
      | none => (.error .oversized, appendAt here [Layout.holder .table []] content)
      | some width => outcome (addRow (here ++ [childCount inner]) >>= fun row =>
          addHeadings row headings >>= fun _ => pure (here ++ [childCount inner]))
            (appendAt here [.element (.plain PageElement.table.label [.plain "border" width]) []]
              content) := by
  rw [addTable, addElement, outcome_bind_of_ok (outcome_addNode he _)]
  cases Text.decimal? border with
  | none => rfl
  | some width =>
    show outcome (changeHere _ _ >>= _) _ = _
    rw [outcome_bind_of_ok (outcome_changeHere _ _ _), changeAt_appendAt he rfl]
    rfl

/-- Adding a table whose border can be written. -/
theorem adds_addTable (here : Place) {border : Int} {width : String}
    (hw : Text.decimal? border = some width) (headings : List String) :
    Adds here (addTable here border headings) [Layout.table width headings []] fun k => here ++ [k] := by
  have : AddsOn here (addTable here border headings) [Layout.table width headings []]
      fun k => here ++ [k] := by
    intro content tag inner he
    have hr : AddsOn (here ++ [childCount inner])
        (addRow (here ++ [childCount inner]) >>= fun row => addHeadings row headings >>= fun _ =>
          pure (here ++ [childCount inner]))
        [Layout.holder .row
          (headings.map fun h => Layout.holder .column [Layout.holder .bold [.text h]])]
        fun _ => here ++ [childCount inner] :=
      .inside (r := fun _ _ => here ++ [childCount inner]) fun k =>
        (addsOn_addHeadings _ headings).andThen_pure _
    rw [outcome_addTable he, hw]
    rcases hr _ _ _ (nodeAt?_appendAt_child he rfl []) with hok | ⟨fault, content', hf, f, ha, rfl⟩
    · left
      refine hok.trans ?_
      rw [appendAt, changeAt_appendAt he rfl]
      rfl
    · refine .inr ⟨fault, _, hf, ?_⟩
      rw [changeAt_appendAt he rfl]
      exact .appendAt here _ content
  exact .of_addNode_bind this

/-- Adding a table whose border cannot be written fails. -/
theorem addTable_of_none (here : Place) {border : Int} (hw : Text.decimal? border = none)
    (headings : List String) (content : List Node) : ∃ fault content',
      outcome (addTable here border headings) content = (.error fault, content') ∧
        AddedAt here content content' := by
  by_cases he : ∃ tag inner, nodeAt? content here = some (.element tag inner)
  · obtain ⟨tag, inner, he⟩ := he
    exact ⟨_, _, by rw [outcome_addTable he, hw], .appendAt here _ content⟩
  · obtain ⟨fault, hf⟩ := outcome_addNode_of_ne (fun tag inner h => he ⟨tag, inner, h⟩)
      (emptyElement PageElement.table.label)
    exact ⟨fault, content, outcome_bind_of_error hf, .refl here content⟩

theorem addedAt_addTable (here : Place) (border : Int) (headings : List String) (content : List Node) :
    AddedAt here content (outcome (addTable here border headings) content).2 := by
  cases hw : Text.decimal? border with
  | none =>
    obtain ⟨fault, content', ho, ha⟩ := addTable_of_none here hw headings content
    rw [ho]
    exact ha
  | some width => exact (adds_addTable here hw headings).addedAt content

/-! ### Headers and sections -/

/-- The heading is there before its text is looked at. -/
theorem outcome_addHeader (he : nodeAt? content here = some (.element tag inner)) (level : HeaderLevel)
    (name : String) :
    outcome (addHeader here level name) content = if isLegalText name then
        (.ok (here ++ [childCount inner + 1]), appendAt here (Layout.headed level name []) content)
      else (.error .illegalText, appendAt here
        [.element (.plain level.label []) [Layout.holder .anchor []]] content) := by
  have h1 := nodeAt?_appendAt_child (n := emptyElement level.label) he rfl []
  rw [addHeader, outcome_bind_of_ok (outcome_addNode he _), addElement,
    outcome_bind_of_ok (outcome_addNode h1 _), appendAt, changeAt_appendAt he rfl]
  split
  · rw [outcome_bind_of_ok (outcome_changeHere _ _ _), outcome_bind_of_ok (outcome_changeHere _ _ _),
      changeAt_append (List.append_ne_nil_of_right_ne_nil _ (List.cons_ne_nil _ _)) (List.cons_ne_nil _ _)]
    show outcome (addNode here _) (changeAt _ (changeAt _ (appendAt here [_] content) _) _) = _
    rw [changeAt_appendAt he rfl, changeAt_appendAt he rfl, outcome_addNode (nodeAt?_appendAt he _),
      appendAt_appendAt, childCount_append]
    rfl
  · rfl

theorem adds_addHeader (here : Place) (level : HeaderLevel) (name : String) :
    Adds here (addHeader here level name) (Layout.headed level name []) fun k => here ++ [k + 1] := by
  have : AddsOn here (addHeader here level name) (Layout.headed level name []) fun k => here ++ [k + 1] := by
    intro content tag inner he
    rw [outcome_addHeader he]
    split
    · exact .inl rfl
    · exact .inr ⟨_, _, rfl, .appendAt here _ content⟩
  exact .of_addNode_bind this

theorem isLegalText_append (s t : String) : isLegalText (s ++ t) = (isLegalText s && isLegalText t) := by
  simp [isLegalText]

theorem localLink_eq (name : String) (caption? : Option String) :
    localLink name caption? = if isLegalText (caption?.getD name) && isLegalText name then
      .ok (Layout.linked ("#" ++ name) (caption?.getD name)) else .error .illegalText := by
  rw [localLink, link, isLegalText_append]
  rfl

/-- Content with one entry added to each of some lists. -/
def enterAll (entry : Node) (tocs : List Place) (content : List Node) : List Node :=
  tocs.foldl (fun content toc => appendAt toc [entry] content) content

theorem outcome_addItem (he : nodeAt? content here = some (.element tag inner)) (n : Node) :
    outcome (addItem here n) content =
      (.ok (here ++ [childCount inner]), appendAt here [Layout.holder .item [n]] content) := by
  have h1 := nodeAt?_appendAt_child (n := emptyElement PageElement.item.label) he rfl []
  rw [addItem, addElement, outcome_bind_of_ok (outcome_addNode he _),
    outcome_bind_of_ok (outcome_addNode h1 _), appendAt, changeAt_appendAt he rfl]
  rfl

/-- Entries in lists that are there. -/
theorem outcome_addEntries {tocs : List Place} {name : String} {caption? : Option String}
    (hl : (isLegalText (caption?.getD name) && isLegalText name) = true)
    (ht : ∀ toc ∈ tocs, ∃ tag inner, nodeAt? content toc = some (.element tag inner)) :
    outcome (addEntries name caption? tocs) content =
      (.ok (), enterAll (Layout.entry name (caption?.getD name)) tocs content) := by
  induction tocs generalizing content with
  | nil => rfl
  | cons toc tocs ih =>
    obtain ⟨tag, inner, he⟩ := ht toc (.head _)
    have hk : outcome (liftM (localLink name caption?) : Editing Node) content =
        (.ok (Layout.linked ("#" ++ name) (caption?.getD name)), content) := by
      rw [localLink_eq, if_pos hl]
      rfl
    rw [addEntries, outcome_bind_of_ok hk, outcome_bind_of_ok (outcome_addItem he _)]
    refine ih fun toc' ht' => ?_
    obtain ⟨tag', inner', he'⟩ := ht toc' (.tail _ ht')
    obtain ⟨n, hn, hg⟩ := (Grows.appendAt toc _ content).nodeAt? he'
    obtain ⟨inner'', rfl, -⟩ := hg.exists_of_element
    exact ⟨_, _, hn⟩

theorem grows_addEntries (name : String) (caption? : Option String) (tocs : List Place)
    (content : List Node) : Grows content (outcome (addEntries name caption? tocs) content).2 := by
  induction tocs generalizing content with
  | nil => exact .refl content
  | cons toc tocs ih =>
    rw [addEntries, outcome_bind]
    cases localLink name caption? with
    | error fault => exact .refl content
    | ok entry =>
      show Grows content (outcome (addItem toc entry >>= _) content).2
      have hi := (adds_addItem toc entry).addedAt content
      rw [outcome_bind]
      revert hi
      rcases outcome (addItem toc entry) content with ⟨_ | _, content'⟩
      · exact AddedAt.grows
      · exact fun hi => hi.grows.trans (ih content')

theorem grows_addSection (here : Place) (level : HeaderLevel) (name : String) (tocs : List Place)
    (caption? : Option String) (content : List Node) :
    Grows content (outcome (addSection here level name tocs caption?) content).2 := by
  have he := grows_addEntries name caption? tocs content
  rw [addSection, outcome_bind]
  revert he
  rcases outcome (addEntries name caption? tocs) content with ⟨_ | _, content'⟩
  · exact id
  · exact fun he => he.trans ((adds_addHeader here level name).addedAt content').grows

/-- A section whose entries can be made and have lists to stand in is added like its header. -/
theorem outcome_addSection {tocs : List Place} {name : String} {caption? : Option String}
    (hl : (isLegalText (caption?.getD name) && isLegalText name) = true)
    (ht : ∀ toc ∈ tocs, ∃ tag inner, nodeAt? content toc = some (.element tag inner))
    (level : HeaderLevel) :
    outcome (addSection here level name tocs caption?) content =
      outcome (addHeader here level name)
        (enterAll (Layout.entry name (caption?.getD name)) tocs content) := by
  rw [addSection, outcome_bind_of_ok (outcome_addEntries hl ht)]

/-- A section whose name or caption a document cannot hold adds nothing to any list. -/
theorem outcome_addSection_of_illegal {tocs : List Place} {name : String} {caption? : Option String}
    (hl : (isLegalText (caption?.getD name) && isLegalText name) = false) (ht : tocs ≠ [])
    (level : HeaderLevel) :
    outcome (addSection here level name tocs caption?) content = (.error .illegalText, content) := by
  obtain ⟨toc, tocs, rfl⟩ := List.exists_cons_of_ne_nil ht
  have hk : outcome (liftM (localLink name caption?) : Editing Node) content =
      (.error .illegalText, content) := by
    rw [localLink_eq, hl]
    rfl
  rw [addSection, addEntries, outcome_bind_of_error (outcome_bind_of_error hk)]

/-! ### Copies -/

/-- What a node holds as it is once it has been copied to stand under the tags of `around`, nearest first,
where nothing stood before. -/
def copyUnder (around : List Tag) (source : Node) : List Node :=
  appendContent [] (copiedContent around source.copySource)

theorem nodeAt?_congr (h : ∀ i, childAt? content i = childAt? content' i) (q : Place) :
    nodeAt? content q = nodeAt? content' q := by
  rcases q with _ | ⟨i, _ | ⟨j, q⟩⟩
  · rfl
  · exact h i
  · rw [nodeAt?_cons (List.cons_ne_nil j q), nodeAt?_cons (List.cons_ne_nil j q), h]

theorem childAt?_appendText (content : List Node) (s : String) (i : Nat) :
    childAt? (appendText content s) i = childAt? content i := by
  have hs (content : List Node) (t : String) : childAt? (content ++ [.text t]) i = childAt? content i := by
    rw [childAt?_append, childAt?_cons_of_isText rfl]
    split
    · rfl
    · rw [childAt?_eq_none (by omega : childCount content ≤ i)]
      rfl
  unfold appendText
  split
  · rfl
  · split
    · rename_i t ht
      obtain ⟨before, rfl⟩ := List.getLast?_eq_some_iff.mp ht
      rw [List.dropLast_concat, hs, hs]
    · exact hs content s

theorem nodeAt?_appendContent (h : nodeAt? content q = some m) (more : List Node) :
    nodeAt? (appendContent content more) q = some m := by
  unfold appendContent
  split
  · refine nodeAt?_append_of_some ?_ _
    rwa [nodeAt?_congr (childAt?_appendText content _)]
  · exact nodeAt?_append_of_some h more

theorem AddsAtEnd.appendContent (more : List Node) :
    AddsAtEnd (Node.mapContent (Markup.appendContent · more)) := by
  refine fun n => ⟨.mapContent (fun c => .appendContent c more) n, fun q m h => ?_⟩
  cases n with
  | element tag inner => exact nodeAt?_appendContent h more
  | _ => exact h

/-- A copy into an element. -/
theorem outcome_addCopy (he : nodeAt? content here = some (.element tag inner)) (source : Node) :
    outcome (addCopy here source) content = (.ok (), changeAt (Node.mapContent (appendContent ·
      (copiedContent (tag :: tagsAround content here) source.copySource))) content here) := by
  rw [addCopy, outcome_bind_of_ok (outcome_get content), he]
  show outcome (addCopied here source.copySource) content = _
  rw [addCopied, outcome_bind_of_ok (outcome_get content), he]
  rfl

/-- A comment or a processing instruction with its text continued. -/
def continueData (s : String) : Node → Node
  | .comment t => .comment (t ++ s)
  | .instruction target data => .instruction target (data ++ s)
  | n => n

theorem AddsAtEnd.continueData (s : String) : AddsAtEnd (continueData s) := by
  intro n
  cases n with
  | comment t => exact ⟨.comment t s (.new []), fun _ _ h => h⟩
  | instruction target data => exact ⟨.instruction target data s (.new []), fun _ _ h => h⟩
  | _ => exact ⟨.refl _, fun _ _ h => h⟩

/-- Text added to what is no element. -/
theorem addedAt_addText (hne : ∀ tag inner, nodeAt? content here ≠ some (.element tag inner)) (s : String) :
    AddedAt here content (outcome (addText here s) content).2 := by
  have hd (f : Node → Node) (hf : ∀ n, nodeAt? content here = some n → f n = continueData s n) :
      AddedAt here content (changeAt f content here) :=
    ⟨continueData s, .continueData s, changeAt_congr hf⟩
  unfold addText
  split
  · exact .refl here content
  · rw [outcome_bind, nodeHere, outcome_bind_of_ok (outcome_get content)]
    cases h : nodeAt? content here with
    | none => exact .refl here content
    | some n =>
      cases n with
      | element tag inner => exact absurd h (hne tag inner)
      | comment t =>
        show AddedAt here content (outcome (ite _ _ _) content).2
        split
        · refine hd (fun _ => .comment (t ++ s)) fun n hn => ?_
          rw [h, Option.some.injEq] at hn
          subst hn
          rfl
        · exact .refl here content
      | instruction target data =>
        show AddedAt here content (outcome (ite _ _ _) content).2
        split
        · refine hd (fun _ => .instruction target (data ++ s)) fun n hn => ?_
          rw [h, Option.some.injEq] at hn
          subst hn
          rfl
        · exact .refl here content
      | _ => exact .refl here content

/-- A copy to what is no element copies text at most. -/
theorem addCopied_of_ne (hne : ∀ tag inner, nodeAt? content here ≠ some (.element tag inner))
    (copied : List Node) : (outcome (addCopied here copied) content).2 = content := by
  rw [addCopied, outcome_bind_of_ok (outcome_get content)]
  cases h : nodeAt? content here with
  | none => cases copied <;> rfl
  | some n =>
    cases n with
    | element tag inner => exact absurd h (hne tag inner)
    | _ => cases copied <;> rfl

/-- A copy to what is no element is one of its text and then one of its children. -/
theorem outcome_addCopy_of_ne (hne : ∀ tag inner, nodeAt? content here ≠ some (.element tag inner))
    (source : Node) : outcome (addCopy here source) content =
      outcome (addText here source.leadingText >>= fun _ => addCopied here source.children) content := by
  rw [addCopy, outcome_bind_of_ok (outcome_get content)]
  split
  · rename_i tag inner h
    exact absurd h (hne tag inner)
  · rfl

theorem addedAt_addCopy (here : Place) (source : Node) (content : List Node) :
    AddedAt here content (outcome (addCopy here source) content).2 := by
  by_cases he : ∃ tag inner, nodeAt? content here = some (.element tag inner)
  · obtain ⟨tag, inner, he⟩ := he
    rw [outcome_addCopy he]
    exact ⟨_, .appendContent _, rfl⟩
  · have hne : ∀ tag inner, nodeAt? content here ≠ some (.element tag inner) :=
      fun tag inner h => he ⟨tag, inner, h⟩
    have ht := addedAt_addText hne source.leadingText
    rw [outcome_addCopy_of_ne hne, outcome_bind]
    rcases hr : outcome (addText here source.leadingText) content with ⟨_ | _, content'⟩
    · rwa [hr] at ht
    · rw [hr] at ht
      show AddedAt here content (outcome (addCopied here source.children) content').2
      rwa [addCopied_of_ne (ht.ne_element hne)]

end ReleaseNotes
