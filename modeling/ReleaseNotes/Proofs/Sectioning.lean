import Mathlib.Data.List.Nodup
import ReleaseNotes.Proofs.Assembling
import ReleaseNotes.Proofs.Order

/-!
# Additions and sections

A pamphlet that has been begun is added to in any way and at any places (`Addition`), and whether or not each addition
succeeds the next one follows (`performAll`). Only headers add headings (`GrowsPlainly`), and each of them adds one with
its block just after it. So the headings of a pamphlet are at all times those of the headers that were added to it
(`HasHeaders`), however they are nested; and what is found for a name is the block of the first header of that
level with that name.
-/

namespace ReleaseNotes

open Markup

variable {α β : Type} {content content' content'' new : List Node} {here p q root : Place} {m n : Node}
  {level : HeaderLevel} {name : String}

/-! ### Additions without headings -/

/-- No heading of any level stands in some content. -/
def HeadingFree (content : List Node) : Prop :=
  ∀ level : HeaderLevel, anywhere (Node.isNamed level.label) content = false

theorem headingFree_element (e : PageElement) (attributes : List Attribute) {inner : List Node}
    (h : HeadingFree inner) : HeadingFree [.element (.plain e.label attributes) inner] := by
  intro level
  rw [anywhere_element, isNamed_element, h level]
  rfl

theorem headingFree_nil : HeadingFree [] := fun _ => rfl

theorem headingFree_text (s : String) : HeadingFree [.text s] := fun _ => rfl

theorem HeadingFree.append {more : List Node} (h : HeadingFree content) (h' : HeadingFree more) :
    HeadingFree (content ++ more) := by
  intro level
  rw [anywhere_append, h level, h' level]
  rfl

theorem HeadingFree.isNamed (h : HeadingFree content) (hn : nodeAt? content q = some n) :
    n.isNamed level.label = false :=
  Bool.eq_false_iff.mpr (List.any_eq_false.mp (h level) n (mem_familyOfAll_of_nodeAt? hn))

/-- No element with a text that is made by itself is a heading. -/
theorem headingFree_textElement {e : PageElement} {s : String} (h : textElement e s = .ok n) : HeadingFree [n] := by
  rw [textElement_eq_ok h]
  exact headingFree_element e [] (headingFree_text s)

theorem headingFree_link {address s : String} (h : link address s = .ok n) : HeadingFree [n] := by
  rw [link_eq_ok h]
  exact headingFree_element .anchor _ (headingFree_text s)

/-- Content has grown in elements that were there, and no heading has been added. -/
structure GrowsPlainly (content content' : List Node) : Prop where
  grows : Grows content content'
  children : childCount content' = childCount content
  headings (level : HeaderLevel) (q : Place) (n : Node) (hq : nodeAt? content' q = some n)
    (hn : n.isNamed level.label) : ∃ m, nodeAt? content q = some m

theorem GrowsPlainly.refl (content : List Node) : GrowsPlainly content content :=
  ⟨.refl content, rfl, fun _ _ n hq _ => ⟨n, hq⟩⟩

theorem GrowsPlainly.trans (h : GrowsPlainly content content') (h' : GrowsPlainly content' content'') :
    GrowsPlainly content content'' := by
  refine ⟨h.grows.trans h'.grows, h'.children.trans h.children, fun level q n hq hn => ?_⟩
  obtain ⟨m, hm⟩ := h'.headings level q n hq hn
  obtain ⟨n', hn', hg⟩ := h'.grows.nodeAt? hm
  obtain rfl : n' = n := Option.some.inj (hn'.symm.trans hq)
  exact h.headings level q m hm ((hg.isNamed_eq _).symm.trans hn)

theorem GrowsPlainly.appendAt (h : HeadingFree new) (here : Place) (content : List Node) :
    GrowsPlainly content (appendAt here new content) := by
  refine ⟨.appendAt here new content, childCount_appendAt here new content, fun level q n hq hn => ?_⟩
  rcases nodeAt?_appendAt_cases hq with hold | ⟨_, _, i, r, -, -, hnew⟩
  · exact hold
  · rw [h.isNamed hnew] at hn
    cases hn

/-- Some work adds no heading, whatever comes of it. -/
def AddsPlainly (work : Editing α) : Prop :=
  ∀ content, GrowsPlainly content (outcome work content).2

theorem AddsPlainly.pure (a : α) : AddsPlainly (pure a) := .refl

theorem AddsPlainly.throw (fault : EditFault) : AddsPlainly (throw fault : Editing α) := .refl

theorem AddsPlainly.bind {work : Editing α} {next : α → Editing β} (h : AddsPlainly work)
    (hn : ∀ a, AddsPlainly (next a)) : AddsPlainly (work >>= next) := by
  intro content
  have := h content
  rw [outcome_bind]
  revert this
  rcases outcome work content with ⟨fault | a, content'⟩
  · exact id
  · exact fun h => h.trans (hn a content')

theorem AddsPlainly.of_except {made : Except EditFault β} {next : β → Editing α}
    (h : ∀ b, made = .ok b → AddsPlainly (next b)) : AddsPlainly (liftM made >>= next) := by
  cases made with
  | ok b => exact h b rfl
  | error fault => exact .refl

/-- A node is added to an element, or not at all. -/
theorem addNode_cases (here : Place) (n : Node) (content : List Node) :
    (∃ tag inner, nodeAt? content here = some (.element tag inner)) ∨
      ∃ fault, outcome (addNode here n) content = (.error fault, content) := by
  by_cases he : ∃ tag inner, nodeAt? content here = some (.element tag inner)
  · exact .inl he
  · exact .inr (outcome_addNode_of_ne (fun tag inner h => he ⟨tag, inner, h⟩) n)

theorem addsPlainly_addNode (here : Place) (hn : HeadingFree [n]) : AddsPlainly (addNode here n) := by
  intro content
  rcases addNode_cases here n content with ⟨tag, inner, he⟩ | ⟨fault, hf⟩
  · rw [outcome_addNode he]
    exact .appendAt hn here content
  · rw [hf]
    exact .refl content

theorem addsPlainly_addElement (here : Place) (e : PageElement) : AddsPlainly (addElement here e) :=
  addsPlainly_addNode here (headingFree_element e [] headingFree_nil)

theorem addsPlainly_changeHere (here : Place) (h : HeadingFree new) :
    AddsPlainly (changeHere here (Node.mapContent (· ++ new))) :=
  fun content => .appendAt h here content

theorem addsPlainly_addItem (list : Place) (hn : HeadingFree [n]) : AddsPlainly (addItem list n) :=
  .bind (addsPlainly_addElement list .item) fun item => .bind (addsPlainly_addNode item hn) fun _ => .pure item

theorem addsPlainly_addLabelled (list : Place) (label s : String) : AddsPlainly (addLabelled list label s) := by
  refine .bind (addsPlainly_addElement list .item) fun item => .of_except fun bold hb => ?_
  split
  · exact .bind (addsPlainly_changeHere item ((headingFree_textElement hb).append (headingFree_text _)))
      fun _ => .pure item
  · exact .throw _

theorem addsPlainly_addParagraph (here : Place) (s : String) : AddsPlainly (addParagraph here s) := by
  refine .of_except fun paragraph hp content => ?_
  rw [attach, outcome_bind_of_ok (outcome_get content)]
  cases nodeAt? content here with
  | none => exact .refl content
  | some m => exact addsPlainly_addNode here (headingFree_textElement hp) content

theorem addsPlainly_addHeadings (row : Place) (headings : List String) :
    AddsPlainly (addHeadings row headings) := by
  induction headings with
  | nil => exact .pure ()
  | cons heading headings ih =>
    exact .bind (addsPlainly_addElement row .column) fun cell => .of_except fun bold hb =>
      .bind (addsPlainly_addNode cell (headingFree_textElement hb)) fun _ => ih

theorem addsPlainly_addTable (here : Place) (border : Int) (headings : List String) :
    AddsPlainly (addTable here border headings) := by
  intro content
  rcases addNode_cases here (emptyElement PageElement.table.label) content with ⟨tag, inner, he⟩ | ⟨fault, hf⟩
  · rw [outcome_addTable he]
    cases Text.decimal? border with
    | none => exact .appendAt (headingFree_element .table [] headingFree_nil) here content
    | some width =>
      have hrows (table : Place) : AddsPlainly (addRow table >>= fun row =>
          addHeadings row headings >>= fun _ => pure table) :=
        .bind (addsPlainly_addElement table .row) fun row =>
          .bind (addsPlainly_addHeadings row headings) fun _ => .pure table
      exact (GrowsPlainly.appendAt (headingFree_element .table _ headingFree_nil) here content).trans (hrows _ _)
  · have hfails : outcome (addTable here border headings) content = (.error fault, content) :=
      outcome_bind_of_error hf
    rw [hfails]
    exact .refl content

theorem addsPlainly_addEntries (name : String) (caption? : Option String) (tocs : List Place) :
    AddsPlainly (addEntries name caption? tocs) := by
  induction tocs with
  | nil => exact .pure ()
  | cons toc tocs ih =>
    exact .of_except fun entry he => .bind (addsPlainly_addItem toc (headingFree_link he)) fun _ => ih

/-- A header adds a heading and its block at the end of an element, and nothing at all elsewhere. -/
theorem addHeader_cases (here : Place) (level : HeaderLevel) (hl : isLegalText name) (content : List Node) :
    (∃ fault, outcome (addHeader here level name) content = (.error fault, content)) ∨
      ∃ tag inner, nodeAt? content here = some (.element tag inner) ∧
        outcome (addHeader here level name) content =
          (.ok (here ++ [childCount inner + 1]), appendAt here (Layout.headed level name []) content) := by
  rcases addNode_cases here (emptyElement level.label) content with ⟨tag, inner, he⟩ | ⟨fault, hf⟩
  · refine .inr ⟨tag, inner, he, ?_⟩
    rw [outcome_addHeader he, if_pos hl]
  · exact .inl ⟨fault, outcome_bind_of_error hf⟩

/-! ### Additions -/

/-- One addition to a pamphlet, with the places of the elements that it adds to. -/
inductive Addition where
  /-- The table of contents. -/
  | contents
  /-- A header with entries in some tables of contents. -/
  | entered (here : Place) (level : HeaderLevel) (name : String) (tocs : List Place) (caption? : Option String)
  /-- A header. -/
  | header (here : Place) (level : HeaderLevel) (name : String)
  /-- A list. -/
  | list (here : Place)
  /-- An item of a list that holds an element made for it. -/
  | item (here : Place) (n : Node)
  /-- An item of a list that holds a label in bold and a text. -/
  | labelled (here : Place) (label s : String)
  /-- A paragraph. -/
  | paragraph (here : Place) (s : String)
  /-- A row of a table. -/
  | row (here : Place)
  /-- A cell of a row. -/
  | cell (here : Place)
  /-- A line across the page. -/
  | line (here : Place)
  /-- A table with a row of headings. -/
  | table (here : Place) (border : Int) (headings : List String)

/-- Carries an addition out: the place of what was added. -/
def Addition.perform : Addition → Building Place
  | .contents => addToc
  | .entered here level name tocs caption? => edit (addSection here level name tocs caption?)
  | .header here level name => edit (addHeader here level name)
  | .list here => edit (addList here)
  | .item here n => edit (addItem here n)
  | .labelled here label s => edit (addLabelled here label s)
  | .paragraph here s => edit (addParagraph here s)
  | .row here => edit (addRow here)
  | .cell here => edit (addCell here)
  | .line here => edit (addLine here)
  | .table here border headings => edit (addTable here border headings)

/-- The level and the name of the header that an addition adds. -/
def Addition.header? : Addition → Option (HeaderLevel × String)
  | .entered _ level name _ _ => some (level, name)
  | .header _ level name => some (level, name)
  | _ => none

/-- A document can hold the name of the header that is added, and an element that is made for an item is no heading
and holds none. -/
def Addition.IsLegal : Addition → Prop
  | .entered _ _ name _ _ => isLegalText name
  | .header _ _ name => isLegalText name
  | .item _ n => HeadingFree [n]
  | _ => True

/-- The place of the sibling before a node that stands at a place. -/
def Markup.Place.previous (p : Place) : Place :=
  p.dropLast ++ [p.getLast?.getD 0 - 1]

/-- A header that was added to a pamphlet, with the place of the block that this came to. -/
structure AddedHeader where
  /-- The level. -/
  level : HeaderLevel
  /-- The name. -/
  name : String
  /-- The place of the block. -/
  block : Place
  deriving DecidableEq, Repr

/-- The place of the heading. -/
def AddedHeader.place (h : AddedHeader) : Place :=
  h.block.previous

/-- The headers that an addition has added when something has come of it. -/
def Addition.added (a : Addition) : Except PamphletFault Place → List AddedHeader
  | .ok block => a.header?.toList.map fun h => ⟨h.1, h.2, block⟩
  | .error _ => []

/-- Carries additions out one after the other, each whatever has come of those before it: the headers that were added,
and the pamphlet in the end. -/
def performAll : List Addition → Pamphlet → List AddedHeader × Pamphlet
  | [], p => ([], p)
  | a :: rest, p =>
    let (result, p) := outcome a.perform p
    let (added, p) := performAll rest p
    (a.added result ++ added, p)

/-- What an addition may do to the trees of a pamphlet, with the headers that it adds. -/
inductive AddsHeaders (content : List Node) : List Node → List AddedHeader → Prop where
  /-- No heading is added. -/
  | plain {content' : List Node} (h : GrowsPlainly content content') : AddsHeaders content content' []
  /-- A heading and its block are added at the end of an element, perhaps after other things elsewhere. -/
  | header {content' inner : List Node} {here : Place} {tag : Tag} (level : HeaderLevel) (name : String)
      (h : GrowsPlainly content content') (he : nodeAt? content' here = some (.element tag inner)) :
      AddsHeaders content (appendAt here (Layout.headed level name []) content')
        [⟨level, name, here ++ [childCount inner + 1]⟩]

/-- An addition of something else than a header adds no heading. -/
theorem addsHeaders_of_plain {a : Addition} {p : Pamphlet} (work : Editing Place) (hp : a.perform = edit work)
    (hn : a.header? = none) (hw : AddsPlainly work) :
    (outcome a.perform p).2.root? = p.root? ∧
      AddsHeaders p.trees (outcome a.perform p).2.trees (a.added (outcome a.perform p).1) := by
  have hnone (result : Except PamphletFault Place) : a.added result = [] := by
    cases result with
    | ok block => simp [Addition.added, hn]
    | error fault => rfl
  rw [hp, outcome_edit, hnone]
  exact ⟨rfl, .plain (hw p.trees)⟩

/-- Work that ends in the addition of a header adds its heading, or no heading if it fails. -/
theorem addsHeaders_of_header {a : Addition} {p : Pamphlet} (before : Editing PUnit)
    (hp : a.perform = edit (before >>= fun _ => addHeader here level name)) (hh : a.header? = some (level, name))
    (hb : AddsPlainly before) (hl : isLegalText name) :
    (outcome a.perform p).2.root? = p.root? ∧
      AddsHeaders p.trees (outcome a.perform p).2.trees (a.added (outcome a.perform p).1) := by
  have hadded (block : Place) : a.added (.ok block) = [⟨level, name, block⟩] := by
    simp [Addition.added, hh]
  have hg := hb p.trees
  rw [hp, outcome_edit]
  rcases ho : outcome before p.trees with ⟨fault | _, content⟩
  · rw [ho] at hg
    rw [outcome_bind_of_error ho]
    exact ⟨rfl, .plain hg⟩
  · rw [ho] at hg
    rw [outcome_bind_of_ok ho]
    rcases addHeader_cases here level hl content with ⟨fault, hf⟩ | ⟨tag, inner, he, hk⟩
    · rw [hf]
      exact ⟨rfl, .plain hg⟩
    · rw [hk]
      refine ⟨rfl, ?_⟩
      show AddsHeaders p.trees _ (a.added (.ok _))
      rw [hadded]
      exact .header level name hg he

/-- Every addition leaves the page where it is, and adds no headings but those of its header. -/
theorem Addition.addsHeaders (a : Addition) (hl : a.IsLegal) (p : Pamphlet) :
    (outcome a.perform p).2.root? = p.root? ∧
      AddsHeaders p.trees (outcome a.perform p).2.trees (a.added (outcome a.perform p).1) := by
  cases a with
  | contents =>
    have hg := addsPlainly_addElement p.body .list p.trees
    rw [perform, addToc, outcome_bind_of_ok (outcome_get p), outcome_bind, outcome_edit]
    revert hg
    show GrowsPlainly p.trees (outcome (addList p.body) p.trees).2 → _
    rcases outcome (addList p.body) p.trees with ⟨fault | toc, content⟩
    · exact fun hg => ⟨rfl, .plain hg⟩
    · exact fun hg => ⟨rfl, .plain hg⟩
  | entered here level name tocs caption? =>
    exact addsHeaders_of_header (addEntries name caption? tocs) rfl rfl
      (addsPlainly_addEntries name caption? tocs) hl
  | header here level name =>
    exact addsHeaders_of_header (pure ⟨⟩) (by rw [pure_bind]; rfl) rfl (.pure _) hl
  | list here => exact addsHeaders_of_plain (addList here) rfl rfl (addsPlainly_addElement here .list)
  | item here n => exact addsHeaders_of_plain (addItem here n) rfl rfl (addsPlainly_addItem here hl)
  | labelled here label s =>
    exact addsHeaders_of_plain (addLabelled here label s) rfl rfl (addsPlainly_addLabelled here label s)
  | paragraph here s =>
    exact addsHeaders_of_plain (addParagraph here s) rfl rfl (addsPlainly_addParagraph here s)
  | row here => exact addsHeaders_of_plain (addRow here) rfl rfl (addsPlainly_addElement here .row)
  | cell here => exact addsHeaders_of_plain (addCell here) rfl rfl (addsPlainly_addElement here .column)
  | line here => exact addsHeaders_of_plain (addLine here) rfl rfl (addsPlainly_addElement here .line)
  | table here border headings =>
    exact addsHeaders_of_plain (addTable here border headings) rfl rfl
      (addsPlainly_addTable here border headings)

/-! ### The headings of a pamphlet -/

theorem Markup.Place.previous_snoc (p : Place) (i : Nat) : Place.previous (p ++ [i + 1]) = p ++ [i] := by
  simp [Place.previous]

/-- A header stands in some content: its heading at its place, and the block just after that. -/
structure AddedHeader.Stands (h : AddedHeader) (content : List Node) : Prop where
  heading : ∃ n, nodeAt? content h.place = some n ∧ isHeader h.level h.name n
  next : h.place.next = h.block
  block : ∃ n, nodeAt? content h.block = some n ∧ n.isNamed PageElement.block.label

theorem AddedHeader.Stands.grow {h : AddedHeader} (hs : h.Stands content) (hg : Grows content content') :
    h.Stands content' := by
  obtain ⟨n, hn, hh⟩ := hs.heading
  obtain ⟨m, hm, hb⟩ := hs.block
  obtain ⟨n', hn', hgn⟩ := hg.nodeAt? hn
  obtain ⟨m', hm', hgm⟩ := hg.nodeAt? hm
  exact ⟨⟨n', hn', isHeader_of_growsTo hgn hh⟩, hs.next, m', hm', (hgm.isNamed_eq _).trans hb⟩

/-- Some content is a page, and its headings are those of the headers that were added to it. -/
structure HasHeaders (content : List Node) (added : List AddedHeader) : Prop where
  single : childCount content = 1
  page : ∃ n, nodeAt? content [0] = some n ∧ ∀ level : HeaderLevel, n.isNamed level.label = false
  stands : ∀ h ∈ added, h.Stands content
  all (level : HeaderLevel) (q : Place) (n : Node) (hq : nodeAt? content q = some n) (hn : n.isNamed level.label) :
    ∃ h ∈ added, h.level = level ∧ h.place = q
  apart : (added.map AddedHeader.place).Nodup

variable {added : List AddedHeader} {inner : List Node} {tag : Tag}

theorem HasHeaders.page_grow (h : HasHeaders content added) (hg : Grows content content') :
    ∃ n, nodeAt? content' [0] = some n ∧ ∀ level : HeaderLevel, n.isNamed level.label = false := by
  obtain ⟨n, hn, hl⟩ := h.page
  obtain ⟨n', hn', hgn⟩ := hg.nodeAt? hn
  exact ⟨n', hn', fun level => (hgn.isNamed_eq _).trans (hl level)⟩

/-- Where the content grows without a new heading the headings are those that were there. -/
theorem HasHeaders.plain (h : HasHeaders content added) (hg : GrowsPlainly content content') :
    HasHeaders content' added where
  single := hg.children.trans h.single
  page := h.page_grow hg.grows
  stands a ha := (h.stands a ha).grow hg.grows
  all level q n hq hn := by
    obtain ⟨m, hm⟩ := hg.headings level q n hq hn
    obtain ⟨n', hn', hgn⟩ := hg.grows.nodeAt? hm
    obtain rfl : n' = n := Option.some.inj (hn'.symm.trans hq)
    exact h.all level q m hm ((hgn.isNamed_eq _).symm.trans hn)
  apart := h.apart

/-- The only heading among a heading and its block is the first of them. -/
theorem eq_of_nodeAt?_headed {level' : HeaderLevel} {i : Nat} {r : Place}
    (h : nodeAt? (Layout.headed level name []) (i :: r) = some m) (hm : m.isNamed level'.label) :
    i = 0 ∧ r = [] ∧ level = level' := by
  have hinside : HeadingFree (Layout.heading level name).content :=
    (headingFree_element .anchor _ headingFree_nil).append (headingFree_text name)
  have hblock : HeadingFree [Layout.holder .block []] := headingFree_element .block [] headingFree_nil
  have h : nodeAt? ([Layout.heading level name] ++ [Layout.holder .block []]) (i :: r) = some m := h
  rcases nodeAt?_append_cases h with h | ⟨k, s, -, h⟩
  · cases r with
    | nil =>
      cases i with
      | succ i => cases h
      | zero =>
        obtain rfl : Layout.heading level name = m := Option.some.inj h
        refine ⟨rfl, rfl, ?_⟩
        by_contra hne
        rw [isNamed_heading hne] at hm
        cases hm
    | cons j r =>
      cases i with
      | succ i => cases h
      | zero =>
        have h : nodeAt? (Layout.heading level name).content (j :: r) = some m := h
        rw [hinside.isNamed h] at hm
        cases hm
  · rw [hblock.isNamed h] at hm
    cases hm

/-- Where a heading and its block are added there is one more header. -/
theorem HasHeaders.header (h : HasHeaders content added) (he : nodeAt? content here = some (.element tag inner))
    (level : HeaderLevel) (name : String) :
    HasHeaders (appendAt here (Layout.headed level name []) content)
      (added ++ [⟨level, name, here ++ [childCount inner + 1]⟩]) := by
  have hg := Grows.appendAt here (Layout.headed level name []) content
  have hplace : AddedHeader.place ⟨level, name, here ++ [childCount inner + 1]⟩ = here ++ [childCount inner] :=
    Place.previous_snoc here _
  have hnew : AddedHeader.Stands ⟨level, name, here ++ [childCount inner + 1]⟩
      (appendAt here (Layout.headed level name []) content) := by
    refine ⟨⟨Layout.heading level name, ?_, ?_⟩, ?_, Layout.holder .block [], ?_, rfl⟩
    · rw [hplace]
      exact nodeAt?_appendAt_child he rfl _
    · rw [isHeader_heading]
      exact beq_self_eq_true name
    · rw [hplace, Place.next_snoc]
    · rw [nodeAt?_snoc (ne_nil_of_nodeAt? he), nodeAt?_appendAt he]
      show childAt? (inner ++ Layout.headed level name []) (childCount inner + 1) = _
      rw [childAt?_append, if_neg (by omega), Nat.add_sub_cancel_left]
      rfl
  constructor
  case single => exact (childCount_appendAt here _ content).trans h.single
  case page => exact h.page_grow hg
  case stands =>
    -- what stood there has only grown; the new heading and its block stand as they were added
    intro a ha
    rcases List.mem_append.mp ha with ha | ha
    · exact (h.stands a ha).grow hg
    · exact List.mem_singleton.mp ha ▸ hnew
  case all =>
    intro level' q n hq hn
    rcases nodeAt?_appendAt_cases hq with ⟨m, hm⟩ | ⟨tag', inner', i, r, he', rfl, hm⟩
    · obtain ⟨n', hn', hgn⟩ := hg.nodeAt? hm
      obtain rfl : n' = n := Option.some.inj (hn'.symm.trans hq)
      obtain ⟨a, ha, hal⟩ := h.all level' q m hm ((hgn.isNamed_eq _).symm.trans hn)
      exact ⟨a, List.mem_append_left _ ha, hal⟩
    · obtain ⟨rfl, rfl, hlevel⟩ := eq_of_nodeAt?_headed hm hn
      rw [he, Option.some.injEq, Node.element.injEq] at he'
      exact ⟨_, List.mem_append_right _ (.head _), hlevel, by rw [hplace, he'.2]; rfl⟩
  case apart =>
    -- nothing stood where the new heading stands
    rw [List.map_append, List.map_singleton, hplace, List.nodup_append]
    refine ⟨h.apart, List.pairwise_singleton _ _, fun q hq q' hq' heq => ?_⟩
    obtain ⟨a, ha, rfl⟩ := List.mem_map.mp hq
    obtain ⟨n, hn, -⟩ := (h.stands a ha).heading
    rw [heq, List.mem_singleton.mp hq', nodeAt?_next_child he] at hn
    cases hn

/-- One addition leaves a pamphlet with the headers that it has and those that it adds. -/
theorem HasHeaders.step {new : List AddedHeader} (h : HasHeaders content added)
    (hs : AddsHeaders content content' new) : HasHeaders content' (added ++ new) := by
  cases hs with
  | plain hg =>
    rw [List.append_nil]
    exact h.plain hg
  | header level name hg he => exact (h.plain hg).header he level name

/-- Any additions leave a pamphlet with the headers that it has and those that they add. -/
theorem HasHeaders.run {additions : List Addition} {p : Pamphlet} (hl : ∀ a ∈ additions, a.IsLegal)
    (h : HasHeaders p.trees added) :
    (performAll additions p).2.root? = p.root? ∧
      HasHeaders (performAll additions p).2.trees (added ++ (performAll additions p).1) := by
  induction additions generalizing p added with
  | nil => exact ⟨rfl, by rwa [performAll, List.append_nil]⟩
  | cons a additions ih =>
    obtain ⟨ha, hl⟩ := List.forall_mem_cons.mp hl
    obtain ⟨hroot, hadds⟩ := a.addsHeaders ha p
    obtain ⟨hroot', hrun⟩ := ih hl (h.step hadds)
    rw [List.append_assoc] at hrun
    exact ⟨hroot'.trans hroot, hrun⟩

/-! ### Finding sections -/

theorem name_eq_of_isHeading {name' : String} (h : isHeading name n) (h' : isHeading name' n) : name = name' := by
  unfold isHeading at h h'
  cases hf : n.content.find? fun c => (c.tag?.map Tag.name) == some (.plain PageElement.anchor.label) with
  | none =>
    rw [hf] at h
    cases h
  | some anchor =>
    simp only [hf, beq_iff_eq] at h h'
    exact Option.some.inj (h.symm.trans h')

/-- A heading stands below the page. -/
theorem HasHeaders.below (h : HasHeaders content added) (hq : nodeAt? content q = some n)
    (hn : n.isNamed level.label) : ∃ k r, q = [0] ++ k :: r := by
  obtain ⟨i, r, rfl⟩ := List.exists_cons_of_ne_nil (ne_nil_of_nodeAt? hq)
  have hi := lt_childCount_of_nodeAt? hq
  rw [h.single] at hi
  obtain rfl : i = 0 := by omega
  cases r with
  | cons k r => exact ⟨k, r, rfl⟩
  | nil =>
    obtain ⟨page, hp, hl⟩ := h.page
    obtain rfl : page = n := Option.some.inj (hp.symm.trans hq)
    rw [hl level] at hn
    cases hn

/-- What is found for a name is the block of the first header of the level with the name; if there is none, nothing is
found. -/
theorem HasHeaders.sectionPlace_cases {p : Pamphlet} (hr : p.root? = some [0]) (h : HasHeaders p.trees added)
    (level : HeaderLevel) (name : String) :
    (∃ a ∈ added, a.level = level ∧ a.name = name ∧ outcome (sectionPlace name level) p = (.ok a.block, p) ∧
        ∀ b ∈ added, b.level = level → b.name = name → b ≠ a → a.place < b.place) ∨
      outcome (sectionPlace name level) p = (.error (.noSection name), p) ∧
        ∀ a ∈ added, ¬ (a.level = level ∧ a.name = name) := by
  obtain ⟨page, hpage, -⟩ := h.page
  -- every heading stands below the page, where it is looked for
  have hbelow : ∀ b ∈ added, ∃ n k r, b.place = [0] ++ k :: r ∧ nodeAt? p.trees ([0] ++ k :: r) = some n ∧
      isHeader b.level b.name n := by
    intro b hb
    obtain ⟨n, hn, hh⟩ := (h.stands b hb).heading
    obtain ⟨k, r, hk⟩ := h.below hn (isNamed_of_isHeader hh)
    exact ⟨n, k, r, hk, hk ▸ hn, hh⟩
  have ho := outcome_sectionPlace name level p
  simp only [hr] at ho
  cases hf : headingPlace? p.trees [0] level name with
  | none =>
    simp only [hf] at ho
    refine .inr ⟨ho, fun b hb hbl => ?_⟩
    obtain ⟨n, k, r, -, hn, hh⟩ := hbelow b hb
    rw [hbl.1, hbl.2, isHeader_of_headingPlace?_eq_none hpage hf hn] at hh
    cases hh
  | some q =>
    left
    obtain ⟨⟨n, hn, hh⟩, hfirst⟩ := first_of_headingPlace? hpage hf
    obtain ⟨a, ha, hl, rfl⟩ := h.all level q n hn (isNamed_of_isHeader hh)
    have hs := h.stands a ha
    simp only [hf, hs.next] at ho
    have hname : a.name = name := by
      obtain ⟨n', hn', hh'⟩ := hs.heading
      obtain rfl : n' = n := Option.some.inj (hn'.symm.trans hn)
      rw [isHeader, Bool.and_eq_true] at hh hh'
      exact name_eq_of_isHeading hh'.2 hh.2
    refine ⟨a, ha, hl, hname, ho, fun b hb hbl hbn hne => ?_⟩
    obtain ⟨n', k, r, hk, hn', hh'⟩ := hbelow b hb
    rw [hbl, hbn] at hh'
    have hnot := hfirst k r n' hn' hh'
    rw [← hk, List.not_lt, List.le_iff_lt_or_eq] at hnot
    exact hnot.resolve_right fun he => hne (List.inj_on_of_nodup_map h.apart hb ha he.symm)

/-- A page that has just been begun has no headers. -/
theorem hasHeaders_begin {title : String} {body : Place} {p : Pamphlet}
    (h : outcome (begin title) {} = (.ok body, p)) : p.root? = some [0] ∧ HasHeaders p.trees [] := by
  rw [outcome_begin_of_none rfl] at h
  split at h
  · obtain ⟨-, rfl⟩ := Prod.mk.inj h
    have hfree : HeadingFree [Layout.page title []] :=
      headingFree_element .page [] ((headingFree_element .title [] (headingFree_text title)).append
        (headingFree_element .body [] headingFree_nil))
    refine ⟨rfl, rfl, ⟨_, rfl, fun level => isNamed_element .page [] _ level⟩, nofun, fun level q n hq hn => ?_, .nil⟩
    rw [hfree.isNamed hq] at hn
    cases hn
  · cases h

/-- In a pamphlet that has been begun, whatever has been added to it: the headers that were added stand at different
places, each with the block that it came to just after it, and stay so whatever else is added; all headings are theirs;
and what is found for a level and a name is the block of the first header with these in document order, and nothing
just when no header has been added with these. -/
theorem added_sections_are_found {title : String} {body : Place} {p p' : Pamphlet} {additions : List Addition}
    (hb : outcome (begin title) {} = (.ok body, p)) (hl : ∀ a ∈ additions, a.IsLegal)
    (hp : performAll additions p = (added, p')) :
    ((added.map AddedHeader.place).Nodup ∧
      ∀ more, (∀ a ∈ more, a.IsLegal) → ∀ a ∈ added, a.Stands (performAll more p').2.trees) ∧
    (∀ level q n, nodeAt? p'.trees q = some n → n.isNamed (HeaderLevel.label level) →
      ∃ a ∈ added, a.level = level ∧ a.place = q) ∧
    ∀ level name,
      (∀ a ∈ added, a.level = level → a.name = name →
        ((outcome (sectionPlace name level) p').1 = .ok a.block ↔
          ∀ b ∈ added, b.level = level → b.name = name → b ≠ a → a.place < b.place)) ∧
      ((outcome (sectionPlace name level) p').1 = .error (.noSection name) ↔
        ∀ a ∈ added, ¬ (a.level = level ∧ a.name = name)) := by
  obtain ⟨hroot, hbegin⟩ := hasHeaders_begin hb
  obtain ⟨hroot', h⟩ := hbegin.run hl
  rw [hp] at hroot' h
  refine ⟨⟨h.apart, fun more hm a ha => ?_⟩, h.all, fun level name => ?_⟩
  · exact (h.run hm).2.stands a (List.mem_append_left _ ha)
  rcases h.sectionPlace_cases (hroot'.trans hroot) level name with ⟨a, ha, hal, han, ho, hfirst⟩ | ⟨ho, hnone⟩
  · rw [ho]
    constructor
    · intro b hbm hbl hbn
      constructor
      · intro he
        -- the place of a header is that before its block
        have hab : a = b := List.inj_on_of_nodup_map h.apart ha hbm (congrArg Place.previous (Except.ok.inj he))
        exact hab ▸ hfirst
      · intro hfirst'
        by_cases hab : a = b
        · rw [hab]
        · exact absurd (hfirst b hbm hbl hbn (Ne.symm hab)) (List.lt_asymm (hfirst' a ha hal han hab))
    · exact ⟨nofun, fun hnone => absurd ⟨hal, han⟩ (hnone a ha)⟩
  · rw [ho]
    exact ⟨fun b hbm hbl hbn => absurd ⟨hbl, hbn⟩ (hnone b hbm), fun _ => hnone, fun _ => rfl⟩

/-- A pamphlet that has just been begun. -/
def begun : Pamphlet :=
  (outcome (begin "Notes") {}).2

/-- A section, a section of a lower level in its block, and another section with the same name, in the heading of the
first. -/
def nestedSections : List Addition :=
  [.contents, .entered [0, 1] .mainSection "Issues" [[0, 1, 0]] none, .header [0, 1, 2] .issueDetail "Issues",
   .header [0, 1, 1] .mainSection "Issues"]

/-- Of two sections with one name the one whose heading comes first is found, though its block comes after the other;
one of another level with the name is found at that level, and none at a level that has none. -/
theorem nested_sections_are_found :
    (∀ a ∈ nestedSections, a.IsLegal) ∧
    (outcome (sectionPlace "Issues" .mainSection) (performAll nestedSections begun).2).1 = .ok [0, 1, 2] ∧
    (outcome (sectionPlace "Issues" .issueDetail) (performAll nestedSections begun).2).1 = .ok [0, 1, 2, 1] ∧
    (outcome (sectionPlace "Issues" .banner) (performAll nestedSections begun).2).1 = .error (.noSection "Issues") := by
  have hbegun : outcome (begin "Notes") {} = (.ok [0, 1], begun) := rfl
  have hlegal : ∀ a ∈ nestedSections, a.IsLegal := by
    intro a ha
    simp only [nestedSections, List.mem_cons, List.not_mem_nil, or_false] at ha
    rcases ha with rfl | rfl | rfl | rfl
    · trivial
    all_goals
      show isLegalText "Issues" = true
      decide
  have hadded : performAll nestedSections begun =
      ([⟨.mainSection, "Issues", [0, 1, 2]⟩, ⟨.issueDetail, "Issues", [0, 1, 2, 1]⟩,
        ⟨.mainSection, "Issues", [0, 1, 1, 2]⟩], (performAll nestedSections begun).2) := by
    rfl
  obtain ⟨-, -, hfound⟩ := added_sections_are_found hbegun hlegal hadded
  refine ⟨hlegal, ?_, ?_, ?_⟩
  · exact ((hfound .mainSection "Issues").1 ⟨.mainSection, "Issues", [0, 1, 2]⟩ (by decide) rfl rfl).mpr (by decide)
  · exact ((hfound .issueDetail "Issues").1 ⟨.issueDetail, "Issues", [0, 1, 2, 1]⟩ (by decide) rfl rfl).mpr (by decide)
  · exact (hfound .banner "Issues").2.mpr (by decide)

end ReleaseNotes
