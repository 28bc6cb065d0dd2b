import ReleaseNotes.Proofs.Heading
import ReleaseNotes.Proofs.Record

/-!
# The page in the making

The page as it stands while every section is found where it was opened (`Draft`): the title, the
banner with its paragraph, the table of contents, and each section with what its block holds so far.
The opening makes such a page with empty blocks or stops before there is any section to be found
(`beginPage_cases`). In a draft a section is found where it was opened if and only if no block before
it holds a heading over a section with that name (`blockOf_eq_block_iff`).
-/

namespace ReleaseNotes

open Markup

/-! ### Drafts -/

/-- The page in the making. -/
structure Draft where
  /-- The title, which is also that of the banner. -/
  title : String
  /-- The paragraph under the banner. -/
  delta : String
  /-- The names and captions in the table of contents. -/
  entries : List (String × String)
  /-- What the block of each section holds. -/
  blocks : Section → List Node

/-- What the body begins with: the banner with its block, and the table of contents. -/
def Draft.front (d : Draft) : List Node :=
  Layout.headed .banner d.title [Layout.paragraph d.delta] ++
    [Layout.holder .list (Layout.entries d.entries)]

/-- Some sections one after the other, each with its heading. -/
def Draft.sections (d : Draft) (l : List Section) : List Node :=
  l.flatMap fun s => Layout.headed .mainSection s.title (d.blocks s)

/-- The page with some of the sections. -/
def Draft.pageWith (d : Draft) (l : List Section) : Node :=
  Layout.page d.title (d.front ++ d.sections l)

/-- The page with all sections. -/
def Draft.page (d : Draft) : Node :=
  d.pageWith Section.all

/-- The place of the page. -/
def pagePlace : Place := [0]

/-- The place of the body. -/
def bodyPlace : Place := [0, 1]

/-- The place of the table of contents. -/
def tocPlace : Place := [0, 1, 2]

/-- The pamphlet whose page has some of the sections. -/
def Draft.pamphletWith (d : Draft) (l : List Section) : Pamphlet :=
  { trees := [d.pageWith l], root? := some pagePlace, body? := some bodyPlace, toc? := some tocPlace }

/-- The pamphlet with all sections. -/
def Draft.pamphlet (d : Draft) : Pamphlet :=
  d.pamphletWith Section.all

/-- A draft without entries and with nothing in its blocks. -/
def Draft.blank (title delta : String) : Draft :=
  ⟨title, delta, [], fun _ => []⟩

/-- A draft with more entries. -/
def Draft.enterAll (d : Draft) (more : List (String × String)) : Draft :=
  { d with entries := d.entries ++ more }

/-- A draft with one more entry. -/
def Draft.enter (d : Draft) (name caption : String) : Draft :=
  d.enterAll [(name, caption)]

/-- A draft with some content in the block of a section in place of what was there. -/
def Draft.fill (d : Draft) (s : Section) (content : List Node) : Draft :=
  { d with blocks := Function.update d.blocks s content }

/-- The sections before a section. -/
def Section.earlier (s : Section) : List Section :=
  Section.all.takeWhile (· ≠ s)

/-- The place of the heading of a section. -/
def Section.headingPlace (s : Section) : Place :=
  bodyPlace ++ [2 * s.earlier.length + 3]

/-- The place of the block of a section. -/
def Section.block (s : Section) : Place :=
  bodyPlace ++ [2 * s.earlier.length + 4]

variable {d : Draft} {l : List Section} {s t : Section} {p p' : Progress}

theorem Section.next_headingPlace (s : Section) : s.headingPlace.next = s.block :=
  Place.next_snoc _ _

/-- A section stands between those before it and the others, which have other titles. -/
theorem Section.exists_all_eq (s : Section) : ∃ later, Section.all = s.earlier ++ s :: later := by
  cases s <;> exact ⟨_, rfl⟩

theorem Section.title_ne_of_mem_earlier (h : t ∈ s.earlier) : t.title ≠ s.title := by
  revert t
  cases s <;> decide

theorem isLegalText_title (s : Section) : isLegalText s.title = true := by
  cases s <;> decide

theorem childCount_front (d : Draft) : childCount d.front = 3 := rfl

theorem childCount_sections (d : Draft) (l : List Section) : childCount (d.sections l) = 2 * l.length := by
  induction l with
  | nil => rfl
  | cons s l ih =>
    rw [Draft.sections, List.flatMap_cons, childCount_append]
    show 2 + childCount (d.sections l) = _
    rw [ih, List.length_cons]
    omega

theorem nodeAt?_body (d : Draft) (l : List Section) :
    nodeAt? [d.pageWith l] bodyPlace = some (Layout.holder .body (d.front ++ d.sections l)) := rfl

theorem nodeAt?_toc (d : Draft) (l : List Section) :
    nodeAt? [d.pageWith l] tocPlace =
      some (Layout.holder .list (Layout.entries d.entries)) := rfl

theorem nodeAt?_heading (d : Draft) (s : Section) :
    nodeAt? [d.page] s.headingPlace = some (Layout.heading .mainSection s.title) := by
  cases s <;> rfl

theorem appendAt_toc (d : Draft) (l : List Section) (name caption : String) :
    appendAt tocPlace [Layout.entry name caption] [d.pageWith l] = [(d.enter name caption).pageWith l] := by
  show [Layout.page _ (Layout.heading _ _ :: Layout.holder _ _ ::
    Layout.holder .list (Layout.entries d.entries ++ [_]) :: d.sections l)] = _
  rw [Draft.pageWith, Draft.front, Draft.enter, Draft.enterAll, Layout.entries, Layout.entries,
    List.map_append]
  rfl

theorem nodeAt?_block (d : Draft) (s : Section) :
    nodeAt? [d.page] s.block = some (Layout.holder .block (d.blocks s)) := by
  cases s <;> rfl

theorem changeAt_block (d : Draft) (s : Section) (f : List Node → List Node) :
    changeAt (Node.mapContent f) [d.page] s.block = [(d.fill s (f (d.blocks s))).page] := by
  cases s <;> rfl

theorem Section.block_ne_nil (s : Section) : s.block ≠ [] :=
  List.concat_ne_nil _ _

theorem nodeAt?_in_block (d : Draft) (s : Section) {q : Place} (hq : q ≠ []) :
    nodeAt? [d.page] (s.block ++ q) = nodeAt? (d.blocks s) q := by
  rw [nodeAt?_append s.block_ne_nil hq, nodeAt?_block]
  rfl

/-- A change in the block of a section is a change of what it holds. -/
theorem changeAt_in_block (d : Draft) (s : Section) {q : Place} (hq : q ≠ []) (f : Node → Node) :
    changeAt f [d.page] (s.block ++ q) = [(d.fill s (changeAt f (d.blocks s) q)).page] := by
  rw [changeAt_append s.block_ne_nil hq, changeAt_block]

@[simp] theorem blocks_fill (d : Draft) (s : Section) (content : List Node) :
    (d.fill s content).blocks s = content := by
  simp [Draft.fill]

theorem fill_self {content : List Node} (h : d.blocks s = content) : d.fill s content = d := by
  rw [← h, Draft.fill, Function.update_eq_self]

@[simp] theorem fill_fill (d : Draft) (s : Section) (content more : List Node) :
    (d.fill s content).fill s more = d.fill s more := by
  rw [Draft.fill, Draft.fill, Draft.fill, Function.update_idem]

theorem enterAll_fill_fill (d : Draft) (s : Section) (content more : List Node) (l : List (String × String)) :
    ((d.fill s content).enterAll l).fill s more = (d.enterAll l).fill s more :=
  fill_fill (d.enterAll l) s content more

@[simp] theorem enterAll_nil (d : Draft) : d.enterAll [] = d := by
  rw [Draft.enterAll, List.append_nil]

@[simp] theorem enterAll_enterAll (d : Draft) (l k : List (String × String)) :
    (d.enterAll l).enterAll k = d.enterAll (l ++ k) := by
  rw [Draft.enterAll, Draft.enterAll, Draft.enterAll, List.append_assoc]

/-! ### The opening -/

/-- A main section is added at the end of the body, with an entry for it. -/
theorem outcome_addMain (hb : d.blocks s = []) (l : List Section) (p : Progress)
    (hp : p.pamphlet = d.pamphletWith l) :
    outcome (onTrees (addSection bodyPlace .mainSection s.title [tocPlace] none)) p =
      (.ok (bodyPlace ++ [2 * l.length + 4]),
        { p with pamphlet := (d.enter s.title s.title).pamphletWith (l ++ [s]) }) := by
  have ht : p.pamphlet.trees = [d.pageWith l] := by rw [hp]; rfl
  have hs : outcome (addSection bodyPlace .mainSection s.title [tocPlace] none) [d.pageWith l] =
      (.ok (bodyPlace ++ [2 * l.length + 4]), [(d.enter s.title s.title).pageWith (l ++ [s])]) := by
    rw [outcome_addSection (by rw [Option.getD_none, isLegalText_title]; rfl)
      (by simpa using ⟨_, _, nodeAt?_toc d l⟩), Option.getD_none, enterAll, List.foldl_cons, List.foldl_nil,
      appendAt_toc, outcome_addHeader (nodeAt?_body _ _), if_pos (isLegalText_title s), childCount_append,
      childCount_front, childCount_sections]
    refine congrArg₂ Prod.mk (congrArg (fun k => Except.ok (bodyPlace ++ [k])) (by omega)) ?_
    show [Layout.page _ (_ ++ d.sections l ++ _)] = _
    rw [Draft.pageWith, Draft.sections, Draft.sections, List.flatMap_append, List.flatMap_singleton,
      List.append_assoc]
    show _ = [Layout.page _ (_ ++ (_ ++ Layout.headed _ _ (d.blocks s)))]
    rw [hb]
    rfl
  rw [outcome_onTrees_of_ok (ht ▸ hs), Progress.withTrees, hp]
  rfl

/-- Nothing more can be done with a pamphlet whose opening has failed after its page was begun: it
cannot be opened again, and no section is found in it. -/
structure Pamphlet.IsStuck (p : Pamphlet) : Prop where
  /-- It has been begun. -/
  isSome_root? : p.root?.isSome = true
  /-- It has no table of contents. -/
  toc?_eq : p.toc? = none
  /-- It has no headings of sections. -/
  anywhere_eq : anywhere (Node.isNamed HeaderLevel.mainSection.label) p.trees = false

theorem anywhere_page {inner : List Node} (title : String)
    (hi : anywhere (Node.isNamed HeaderLevel.mainSection.label) inner = false) :
    anywhere (Node.isNamed HeaderLevel.mainSection.label) [Layout.page title inner] = false := by
  simp [Layout.page, Layout.holder, hi]

theorem anywhere_banner {inner : List Node} (title : String)
    (hi : anywhere (Node.isNamed HeaderLevel.mainSection.label) inner = false) :
    anywhere (Node.isNamed HeaderLevel.mainSection.label) (Layout.headed .banner title inner) = false := by
  rw [Layout.headed, anywhere_heading fun _ => id, isNamed_heading (by decide)]
  simp [Layout.holder, hi]

/-- A pamphlet with a page and without a table of contents. -/
def begunPamphlet (title : String) (body : List Node) : Pamphlet :=
  { trees := [Layout.page title body], root? := some pagePlace, body? := some bodyPlace }

theorem isStuck_begunPamphlet {body : List Node} (title : String)
    (hb : anywhere (Node.isNamed HeaderLevel.mainSection.label) body = false) :
    (begunPamphlet title body).IsStuck :=
  ⟨rfl, rfl, anywhere_page title hb⟩

/-- The opening makes a page with a banner and an empty table of contents, or it fails and leaves
nothing or a pamphlet that is stuck. -/
theorem beginPage_cases (plan : Plan) (sources : Sources) (hp : p.pamphlet = {}) :
    (∃ title delta, plan.phrase sources plan.settings.wording.title [] = .ok title ∧
      plan.phrase sources plan.settings.wording.delta [] = .ok delta ∧
      outcome (plan.beginPage sources) p =
        (.ok (bodyPlace, tocPlace), { p with pamphlet := (Draft.blank title delta).pamphletWith [] })) ∨
    ∃ fault p', outcome (plan.beginPage sources) p = (.error fault, p') ∧
      (p'.pamphlet = {} ∨ p'.pamphlet.IsStuck) := by
  unfold Plan.beginPage
  cases htitle : plan.phrase sources plan.settings.wording.title [] with
  | error fault =>
    exact .inr ⟨fault, p, outcome_bind_of_error (by rw [outcome_sentence, htitle]), .inl hp⟩
  | ok title =>
    rw [outcome_bind_of_ok (by rw [outcome_sentence, htitle])]
    have hbegin := outcome_onPamphlet (begin title) p
    rw [hp, outcome_begin_of_none rfl] at hbegin
    cases hl : isLegalText title with
    | false =>
      rw [hl] at hbegin
      exact .inr ⟨_, _, outcome_bind_of_error hbegin, .inr ⟨rfl, rfl, rfl⟩⟩
    | true =>
      rw [hl, if_pos rfl] at hbegin
      change outcome _ _ = (.ok bodyPlace, { p with pamphlet := begunPamphlet title [] }) at hbegin
      rw [outcome_bind_of_ok hbegin]
      have hheader : outcome (onTrees (addHeader bodyPlace .banner title))
          { p with pamphlet := begunPamphlet title [] } = (.ok (bodyPlace ++ [1]),
            { p with pamphlet := begunPamphlet title (Layout.headed .banner title []) }) :=
        outcome_onTrees_of_ok ((outcome_addHeader rfl _ _).trans (if_pos hl))
      rw [outcome_bind_of_ok hheader]
      cases hdelta : plan.phrase sources plan.settings.wording.delta [] with
      | error fault =>
        exact .inr ⟨fault, _, outcome_bind_of_error (by rw [outcome_sentence, hdelta]),
          .inr (isStuck_begunPamphlet title (anywhere_banner title rfl))⟩
      | ok delta =>
        rw [outcome_bind_of_ok (by rw [outcome_sentence, hdelta])]
        have hparagraph := outcome_onTrees (addParagraph (bodyPlace ++ [1]) delta)
          { p with pamphlet := begunPamphlet title (Layout.headed .banner title []) }
        rw [outcome_addParagraph
          (show nodeAt? _ (bodyPlace ++ [1]) = some (Layout.holder .block []) from rfl)]
          at hparagraph
        cases hd : isLegalText delta with
        | false =>
          rw [hd] at hparagraph
          exact .inr ⟨_, _, outcome_bind_of_error hparagraph,
            .inr (isStuck_begunPamphlet title (anywhere_banner title rfl))⟩
        | true =>
          rw [hd, if_pos rfl] at hparagraph
          refine .inl ⟨title, delta, rfl, rfl, ?_⟩
          rw [outcome_bind_of_ok hparagraph]
          rfl

/-- The name and the caption of the entry for a main section. -/
def Section.entry (s : Section) : String × String :=
  (s.title, s.title)

/-- A draft as the opening leaves it. -/
def Draft.opened (title delta : String) : Draft :=
  ⟨title, delta, Section.all.map Section.entry, fun _ => []⟩

/-- The record of a section that the opening adds. -/
def Section.call (s : Section) : SectionCall :=
  ⟨.mainSection, s.title, s.title, s.block⟩

theorem Section.earlier_eq {rest : List Section} (h : Section.all = l ++ s :: rest) : s.earlier = l := by
  have hs : s ∉ l := by
    have hn : (l ++ s :: rest).Nodup := h ▸ (by decide : Section.all.Nodup)
    exact fun hm => (List.nodup_append.mp hn).2.2 s hm s (.head _) rfl
  rw [Section.earlier, h, List.takeWhile_append_of_pos fun t ht => by
    simpa using fun hts : t = s => hs (hts ▸ ht), List.takeWhile_cons_of_neg (by simp), List.append_nil]

/-- The sections are opened one after the other, and every one of them is recorded. -/
theorem outcome_forM_recordMain {l' : List Section} (hl : Section.all = l ++ l') (hb : ∀ s, d.blocks s = [])
    (p : Progress) (calls : List SectionCall) :
    outcome (l'.forM (recordMain (bodyPlace, tocPlace))) ({ p with pamphlet := d.pamphletWith l }, calls) =
      (.ok (), ({ p with pamphlet := (d.enterAll (l'.map Section.entry)).pamphlet },
        calls ++ l'.map Section.call)) := by
  induction l' generalizing d l calls with
  | nil =>
    rw [List.append_nil] at hl
    rw [List.map_nil, List.map_nil, List.append_nil, enterAll_nil, Draft.pamphlet, hl]
    rfl
  | cons s l' ih =>
    have h := outcome_recordSection_of_ok
      (outcome_addMain (hb s) l { p with pamphlet := d.pamphletWith l } rfl) calls
    rw [outcome_forM_cons, recordMain, bind_assoc, outcome_bind_of_ok h, pure_bind]
    refine (ih (d := d.enter s.title s.title) (hl.trans (List.append_cons l s l')) hb _).trans ?_
    rw [List.map_cons, List.map_cons, Draft.enter, enterAll_enterAll, List.append_assoc, Section.call,
      Section.block, Section.earlier_eq hl]
    rfl

/-- The opening makes a draft with all sections and records each of them, or it fails, records none,
and leaves nothing or a pamphlet that is stuck. -/
theorem recordOpening_cases (plan : Plan) (sources : Sources) (hp : p.pamphlet = {})
    (calls : List SectionCall) :
    (∃ title delta, plan.phrase sources plan.settings.wording.title [] = .ok title ∧
      plan.phrase sources plan.settings.wording.delta [] = .ok delta ∧
      outcome (plan.recordOpening sources) (p, calls) =
        (.ok (), ({ p with pamphlet := (Draft.opened title delta).pamphlet },
          calls ++ Section.all.map Section.call))) ∨
    ∃ fault p', outcome (plan.recordOpening sources) (p, calls) = (.error fault, (p', calls)) ∧
      (p'.pamphlet = {} ∨ p'.pamphlet.IsStuck) := by
  unfold Plan.recordOpening
  rcases beginPage_cases plan sources hp with ⟨title, delta, ht, hd, ho⟩ | ⟨fault, p', ho, hp'⟩
  · refine .inl ⟨title, delta, ht, hd, ?_⟩
    rw [outcome_bind_of_ok (by rw [outcome_unrecorded, ho])]
    exact outcome_forM_recordMain (d := .blank title delta) rfl (fun _ => rfl) p calls
  · exact .inr ⟨fault, p', outcome_bind_of_error (by rw [outcome_unrecorded, ho]), hp'⟩

/-- An opening that comes to its end leaves a draft with all sections. -/
theorem exists_opened {plan : Plan} {sources : Sources} {u : Unit} (hp : p.pamphlet = {})
    (h : outcome (plan.takeStep sources .opening) p = (.ok u, p')) :
    ∃ title delta, plan.phrase sources plan.settings.wording.title [] = .ok title ∧
      plan.phrase sources plan.settings.wording.delta [] = .ok delta ∧
      p' = { p with pamphlet := (Draft.opened title delta).pamphlet } := by
  obtain ⟨calls', hr⟩ := (erases_recordStep plan sources .opening).exists_of_ok h []
  change outcome (plan.recordOpening sources) (p, []) = _ at hr
  rcases recordOpening_cases plan sources hp [] with ⟨title, delta, ht, hd, ho⟩ | ⟨fault, p'', ho, -⟩
  · rw [hr, Prod.mk.injEq, Prod.mk.injEq] at ho
    exact ⟨title, delta, ht, hd, ho.2.1⟩
  · rw [hr] at ho
    cases ho

/-- A shown opening of a pamphlet that has not been begun. -/
theorem exists_opened_of_shown {plan : Plan} {sources : Sources} {start : Progress} {u : Unit}
    (h : outcome (plan.takeShownStep sources .opening) start.anew = (.ok u, p')) :
    ∃ title delta, plan.phrase sources plan.settings.wording.title [] = .ok title ∧
      plan.phrase sources plan.settings.wording.delta [] = .ok delta ∧
      p'.pamphlet = (Draft.opened title delta).pamphlet := by
  rw [takeShownStep_eq] at h
  obtain ⟨_, q, ha, ho⟩ := outcome_bind_eq_ok.mp h
  have hq : q.pamphlet = {} := by
    have := Reads.announce plan .opening start.anew
    rwa [ha] at this
  obtain ⟨title, delta, ht, hd, rfl⟩ := exists_opened hq ho
  exact ⟨title, delta, ht, hd, rfl⟩

/-! ### Where a section is found -/

theorem anywhere_front (d : Draft) (name : String) :
    anywhere (isHeader .mainSection name) d.front = false := by
  rw [Draft.front, Layout.headed, List.cons_append, anywhere_heading fun _ => isNamed_of_isHeader,
    isHeader_of_not_isNamed (isNamed_heading (by decide))]
  simp [Layout.holder, Layout.paragraph, anywhere_eq_false_of_imp
    (fun _ => isNamed_of_isHeader) (anywhere_entries .mainSection d.entries)]

/-- What the sections hold is what their blocks hold, as far as headings over another section go. -/
theorem anywhere_sections_eq_false_iff {name : String} (hl : ∀ t ∈ l, t.title ≠ name) :
    anywhere (isHeader .mainSection name) (d.sections l) = false ↔
      ∀ t ∈ l, anywhere (isHeader .mainSection name) (d.blocks t) = false := by
  induction l with
  | nil => simp [Draft.sections]
  | cons t l ih =>
    rw [List.forall_mem_cons] at hl ⊢
    rw [← ih hl.2, Draft.sections, List.flatMap_cons, anywhere_append, Bool.or_eq_false_iff, Layout.headed,
      anywhere_heading fun _ => isNamed_of_isHeader]
    simp [Layout.holder, hl.1, Draft.sections]

theorem firstHeader?_page {name : String} (title : String) (body : List Node) :
    firstHeader? .mainSection name (placedFrom pagePlace 0 (Layout.page title body).content) =
      firstHeader? .mainSection name (placedFrom bodyPlace 0 body) := by
  have ht : anywhere (isHeader .mainSection name) [Layout.holder .title [.text title]] = false := by
    simp [Layout.holder]
  show firstHeader? _ _ (placedFrom pagePlace 0 ([Layout.holder .title _] ++ [Layout.holder .body body])) = _
  rw [placedFrom_append, firstHeader?_append, firstHeader?_eq_none_iff.mpr ht, Option.none_or,
    placedFrom_cons rfl, placedFrom, List.append_nil]
  show firstHeader? _ _ (Node.placed bodyPlace (.element (.plain PageElement.body.label []) body)) = _
  rw [Node.placed, firstHeader?_cons, isHeader_element]
  rfl

/-- Where the heading of a section is found: where it stands, unless a block before it holds a heading
over a section with that name. -/
theorem headingPlace?_cases (d : Draft) (s : Section) :
    ((∀ t ∈ s.earlier, anywhere (isHeader .mainSection s.title) (d.blocks t) = false) ∧
      headingPlace? [d.page] pagePlace .mainSection s.title = some s.headingPlace) ∨
    ((¬ ∀ t ∈ s.earlier, anywhere (isHeader .mainSection s.title) (d.blocks t) = false) ∧
      ∃ k r, k < 2 * s.earlier.length + 3 ∧
        headingPlace? [d.page] pagePlace .mainSection s.title = some (bodyPlace ++ k :: r)) := by
  obtain ⟨later, hall⟩ := s.exists_all_eq
  have hb : d.front ++ d.sections Section.all =
      (d.front ++ d.sections s.earlier) ++ (Layout.heading .mainSection s.title ::
        Layout.holder .block (d.blocks s) :: d.sections later) := by
    rw [hall, Draft.sections, List.flatMap_append, List.flatMap_cons, List.append_assoc]
    rfl
  have hc : childCount (d.front ++ d.sections s.earlier) = 2 * s.earlier.length + 3 := by
    rw [childCount_append, childCount_front, childCount_sections, Nat.add_comm]
  have hn : anywhere (isHeader .mainSection s.title) (d.front ++ d.sections s.earlier) = false ↔
      ∀ t ∈ s.earlier, anywhere (isHeader .mainSection s.title) (d.blocks t) = false := by
    rw [anywhere_append, anywhere_front, Bool.false_or]
    exact anywhere_sections_eq_false_iff fun t ht => Section.title_ne_of_mem_earlier ht
  rw [headingPlace?_eq (show nodeAt? [d.page] pagePlace = some (Layout.page _ _) from rfl), firstHeader?_page,
    hb, placedFrom_append, firstHeader?_append, Nat.zero_add, hc, ← hn, ← firstHeader?_eq_none_iff]
  cases hf : firstHeader? .mainSection s.title (placedFrom bodyPlace 0 (d.front ++ d.sections s.earlier)) with
  | none =>
    refine .inl ⟨rfl, ?_⟩
    rw [Option.none_or, placedFrom_cons rfl, Layout.heading, Node.placed, List.cons_append, firstHeader?_cons]
    exact if_pos ((isHeader_heading s.title).trans (beq_self_eq_true _))
  | some p =>
    obtain ⟨k, r, m, rfl, hm, -⟩ := exists_of_firstHeader? hf
    rw [Nat.zero_add]
    exact .inr ⟨Option.some_ne_none _, k, r, hc ▸ lt_childCount_of_nodeAt? hm, rfl⟩

theorem outcome_blockOf (s : Section) (p : Progress) :
    outcome (blockOf s) p = ((outcome (blockOf s) p).1, p) := by
  rw [blockOf, outcome_onPamphlet, outcome_sectionPlace]

theorem fst_outcome_blockOf (hp : p.pamphlet = d.pamphlet) {heading : Place}
    (h : headingPlace? [d.page] pagePlace .mainSection s.title = some heading) :
    (outcome (blockOf s) p).1 = .ok heading.next := by
  have hr : d.pamphlet.root? = some pagePlace := rfl
  have ht : d.pamphlet.trees = [d.page] := rfl
  rw [blockOf, outcome_onPamphlet, outcome_sectionPlace, hp, hr, ht]
  dsimp only
  rw [h]
  rfl

/-- In a draft a section is found where it was opened if and only if no block before it holds a
heading over a section with that name. -/
theorem blockOf_eq_block_iff (hp : p.pamphlet = d.pamphlet) (s : Section) :
    (outcome (blockOf s) p).1 = .ok s.block ↔
      ∀ t ∈ s.earlier, anywhere (isHeader .mainSection s.title) (d.blocks t) = false := by
  rcases headingPlace?_cases d s with ⟨hn, hh⟩ | ⟨hn, k, r, hk, hh⟩
  · rw [fst_outcome_blockOf hp hh, s.next_headingPlace]
    exact iff_of_true rfl hn
  · rw [fst_outcome_blockOf hp hh]
    refine iff_of_false (fun he => ?_) hn
    rw [Except.ok.injEq] at he
    -- the place after a heading in an earlier block is not that of a later one
    cases r with
    | nil =>
      rw [Place.next_snoc, Section.block, List.append_cancel_left_eq, List.cons.injEq] at he
      omega
    | cons j r =>
      have := congrArg List.length he
      rw [Place.length_next] at this
      simp [Section.block, bodyPlace] at this

end ReleaseNotes
