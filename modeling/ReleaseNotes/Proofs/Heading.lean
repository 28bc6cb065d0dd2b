import ReleaseNotes.Proofs.Growth
import ReleaseNotes.Proofs.Layout

/-!
# Headings

Where the headings of sections are found. A heading is looked for in document order among all that
stands below a place (`headingPlace?_eq`), and it is found in the first part of some content that
holds one (`firstHeader?_append`). A node that holds no heading of some level, and that does not
follow one, is never found as the block of a section, and neither is anything in it
(`not_prefix_next_of_headingPlace?`).
-/

namespace ReleaseNotes.Markup

variable {content more : List Node} {here p q : Place} {m n : Node} {i : Nat}

/-! ### All that stands below a place -/

theorem placedFrom_cons_of_isText (h : n.isText = true) :
    placedFrom here i (n :: content) = placedFrom here i content := by
  cases n with
  | text s => rw [placedFrom]
  | _ => cases h

theorem placedFrom_cons (h : n.isText = false) :
    placedFrom here i (n :: content) = n.placed (here ++ [i]) ++ placedFrom here (i + 1) content := by
  cases n with
  | text s => cases h
  | _ =>
    rw [placedFrom]
    simp

theorem placedFrom_append (here : Place) (i : Nat) (content more : List Node) :
    placedFrom here i (content ++ more) =
      placedFrom here i content ++ placedFrom here (i + childCount content) more := by
  induction content generalizing i with
  | nil => simp [placedFrom]
  | cons n content ih =>
    rw [List.cons_append]
    cases h : n.isText with
    | true =>
      rw [placedFrom_cons_of_isText h, placedFrom_cons_of_isText h, childCount_cons_of_isText h, ih]
    | false =>
      rw [placedFrom_cons h, placedFrom_cons h, childCount_cons h, ih, List.append_assoc,
        Nat.add_assoc, Nat.add_comm 1]

mutual

/-- Whatever is placed with a node is the node or stands in it, at its place. -/
theorem Node.eq_or_nodeAt?_of_mem_placed :
    ∀ (n : Node) (here : Place) (q : Place) (m : Node), (q, m) ∈ n.placed here →
      (q = here ∧ m = n) ∨ ∃ r, q = here ++ r ∧ nodeAt? n.content r = some m
  | .element tag content, here, q, m, h => by
    rw [Node.placed, List.mem_cons, Prod.mk.injEq] at h
    rcases h with h | h
    · exact .inl h
    · obtain ⟨k, r, hq, hm⟩ := exists_nodeAt?_of_mem_placedFrom content here 0 q m h
      rw [Nat.zero_add] at hq
      exact .inr ⟨k :: r, hq, hm⟩
  | .text s, here, q, m, h => .inl (by simpa [Node.placed] using h)
  | .comment s, here, q, m, h => .inl (by simpa [Node.placed] using h)
  | .instruction target data, here, q, m, h => .inl (by simpa [Node.placed] using h)
  | .reference name, here, q, m, h => .inl (by simpa [Node.placed] using h)

/-- Whatever is placed with some content stands in it, at its place. -/
theorem exists_nodeAt?_of_mem_placedFrom :
    ∀ (content : List Node) (here : Place) (i : Nat) (q : Place) (m : Node),
      (q, m) ∈ placedFrom here i content →
        ∃ k r, q = here ++ (i + k) :: r ∧ nodeAt? content (k :: r) = some m
  | [], here, i, q, m, h => by simp [placedFrom] at h
  | n :: rest, here, i, q, m, h => by
    cases hn : n.isText with
    | true =>
      rw [placedFrom_cons_of_isText hn] at h
      obtain ⟨k, r, hq, hm⟩ := exists_nodeAt?_of_mem_placedFrom rest here i q m h
      refine ⟨k, r, hq, ?_⟩
      cases r with
      | nil => exact (childAt?_cons_of_isText hn).trans hm
      | cons j r => rwa [nodeAt?_cons (List.cons_ne_nil j r), childAt?_cons_of_isText hn]
    | false =>
      rw [placedFrom_cons hn, List.mem_append] at h
      rcases h with h | h
      · refine ⟨0, ?_⟩
        rcases Node.eq_or_nodeAt?_of_mem_placed n (here ++ [i]) q m h with ⟨hq, hm⟩ | ⟨r, hq, hm⟩
        · exact ⟨[], hq, (childAt?_cons_zero hn).trans (congrArg some hm.symm)⟩
        · refine ⟨r, by rw [hq, List.append_assoc]; rfl, ?_⟩
          rwa [nodeAt?_cons (ne_nil_of_nodeAt? hm), childAt?_cons_zero hn]
      · obtain ⟨k, r, hq, hm⟩ := exists_nodeAt?_of_mem_placedFrom rest here (i + 1) q m h
        refine ⟨k + 1, r, by rw [hq, Nat.add_assoc, Nat.add_comm 1], ?_⟩
        cases r with
        | nil => exact (childAt?_cons_succ hn).trans hm
        | cons j r => rwa [nodeAt?_cons (List.cons_ne_nil j r), childAt?_cons_succ hn]

end

mutual

/-- The nodes placed with a node are its family without the runs of text. -/
theorem Node.map_snd_placed :
    ∀ (n : Node) (here : Place), n.isText = false →
      (n.placed here).map Prod.snd = n.family.filter (!·.isText)
  | .element tag content, here, _ => by
    rw [Node.placed, List.map_cons, map_snd_placedFrom content here 0, Node.family,
      List.filter_cons_of_pos rfl]
  | .text s, here, h => by cases h
  | .comment s, here, _ => rfl
  | .instruction target data, here, _ => rfl
  | .reference name, here, _ => rfl

theorem map_snd_placedFrom :
    ∀ (content : List Node) (here : Place) (i : Nat),
      (placedFrom here i content).map Prod.snd = (familyOfAll content).filter (!·.isText)
  | [], here, i => rfl
  | n :: rest, here, i => by
    rw [familyOfAll, List.filter_append]
    cases hn : n.isText with
    | true =>
      rw [placedFrom_cons_of_isText hn, map_snd_placedFrom rest here i]
      cases n with
      | text s => rfl
      | _ => cases hn
    | false =>
      rw [placedFrom_cons hn, List.map_append, Node.map_snd_placed n _ hn,
        map_snd_placedFrom rest here (i + 1)]

end

theorem Node.family_eq (n : Node) : n.family = n :: familyOfAll n.content := by
  cases n <;> rfl

theorem familyOfAll_eq_flatMap (content : List Node) : familyOfAll content = content.flatMap Node.family := by
  induction content with
  | nil => rfl
  | cons n content ih => rw [familyOfAll, ih, List.flatMap_cons]

theorem familyOfAll_append (content more : List Node) :
    familyOfAll (content ++ more) = familyOfAll content ++ familyOfAll more := by
  simp only [familyOfAll_eq_flatMap, List.flatMap_append]

theorem forall_mem_familyOfAll_iff {P : Node → Prop} :
    (∀ m ∈ familyOfAll content, P m) ↔ ∀ n ∈ content, ∀ m ∈ n.family, P m := by
  rw [familyOfAll_eq_flatMap]
  exact List.forall_mem_flatMap

theorem Node.mem_family (n : Node) : n ∈ n.family := by
  rw [n.family_eq]
  exact .head _

theorem mem_familyOfAll_of_mem_content (h : m ∈ familyOfAll n.content) : m ∈ n.family := by
  rw [n.family_eq]
  exact .tail _ h

theorem family_subset_familyOfAll (hn : n ∈ content) (hm : m ∈ n.family) : m ∈ familyOfAll content := by
  rw [familyOfAll_eq_flatMap]
  exact List.mem_flatMap_of_mem hn hm

/-- What stands at a place in some content is in its family. -/
theorem mem_familyOfAll_of_nodeAt? (h : nodeAt? content p = some m) : m ∈ familyOfAll content := by
  induction p generalizing content with
  | nil => cases h
  | cons i p ih =>
    cases p with
    | nil => exact family_subset_familyOfAll (mem_of_childAt? h).1 m.mem_family
    | cons j p =>
      obtain ⟨n, hn, hm⟩ := Option.bind_eq_some_iff.mp h
      exact family_subset_familyOfAll (mem_of_childAt? hn).1 (mem_familyOfAll_of_mem_content (ih hm))

/-- All that stands in the node at a place in some content is in the family of the content. -/
theorem familyOfAll_subset_of_nodeAt? (h : nodeAt? content p = some n) (hm : m ∈ familyOfAll n.content) :
    m ∈ familyOfAll content := by
  induction p generalizing content with
  | nil => cases h
  | cons i p ih =>
    cases p with
    | nil => exact family_subset_familyOfAll (mem_of_childAt? h).1 (mem_familyOfAll_of_mem_content hm)
    | cons j p =>
      obtain ⟨n', hn, hm'⟩ := Option.bind_eq_some_iff.mp h
      exact family_subset_familyOfAll (mem_of_childAt? hn).1 (mem_familyOfAll_of_mem_content (ih hm'))

/-- Whether a node with some property stands anywhere in some content. -/
def anywhere (P : Node → Bool) (content : List Node) : Bool :=
  (familyOfAll content).any P

section anywhere

variable {P Q : Node → Bool}

@[simp] theorem anywhere_nil : anywhere P [] = false := rfl

@[simp] theorem anywhere_append (content more : List Node) :
    anywhere P (content ++ more) = (anywhere P content || anywhere P more) := by
  rw [anywhere, familyOfAll_append, List.any_append]
  rfl

@[simp] theorem anywhere_element (tag : Tag) (inner rest : List Node) :
    anywhere P (.element tag inner :: rest) =
      (P (.element tag inner) || anywhere P inner || anywhere P rest) := by
  rw [anywhere, familyOfAll, Node.family, List.cons_append, List.any_cons, List.any_append, Bool.or_assoc]
  rfl

@[simp] theorem anywhere_text (s : String) (rest : List Node) :
    anywhere P (.text s :: rest) = (P (.text s) || anywhere P rest) := rfl

theorem anywhere_eq_false_of_imp (h : ∀ n, P n = true → Q n = true) (hQ : anywhere Q content = false) :
    anywhere P content = false :=
  List.any_eq_false.mpr fun n hn hP => List.any_eq_false.mp hQ n hn (h n hP)

end anywhere

@[simp] theorem Place.next_snoc (p : Place) (i : Nat) : Place.next (p ++ [i]) = p ++ [i + 1] := by
  induction p with
  | nil => rfl
  | cons j p ih =>
    obtain ⟨k, r, hk⟩ := List.exists_cons_of_ne_nil (List.concat_ne_nil i p)
    rw [List.cons_append, hk, Place.next, ← hk, ih]
    · rfl
    · exact List.cons_ne_nil k r

theorem Place.length_next (p : Place) : p.next.length = p.length := by
  rcases List.eq_nil_or_concat p with rfl | ⟨q, i, rfl⟩
  · rfl
  · simp

end ReleaseNotes.Markup

namespace ReleaseNotes

open Markup

variable {content more : List Node} {here p q root : Place} {m n : Node} {i : Nat} {level : HeaderLevel}
  {name : String}

/-! ### Headings that are kept -/

/-- Whether a node is a heading of some level over a section with a name. -/
def isHeader (level : HeaderLevel) (name : String) (n : Node) : Bool :=
  n.isNamed level.label && isHeading name n

theorem isNamed_of_isHeader (h : isHeader level name n = true) : n.isNamed level.label = true := by
  rw [isHeader, Bool.and_eq_true] at h
  exact h.1

theorem Markup.Grows.find?_plain (h : Grows content more) (label : String) :
    ∀ n, content.find? (fun c => (c.tag?.map Tag.name) == some (.plain label)) = some n →
      ∃ n', more.find? (fun c => (c.tag?.map Tag.name) == some (.plain label)) = some n' ∧ n.GrowsTo n' := by
  induction h with
  | new more => exact fun n hn => by cases hn
  | lastText s t rest' => exact fun n hn => by simp [Node.tag?] at hn
  | element tag hi hr _ ih =>
    intro n hn
    rw [List.find?_cons] at hn ⊢
    cases ht : (some tag.name == some (Name.plain label)) with
    | true =>
      rw [show ((Node.tag? (.element tag _)).map Tag.name == some (Name.plain label)) = true from ht] at hn ⊢
      exact ⟨_, rfl, Option.some.inj hn ▸ .element tag hi (.new [])⟩
    | false =>
      rw [show ((Node.tag? (.element tag _)).map Tag.name == some (Name.plain label)) = false from ht] at hn ⊢
      exact ih n hn
  | text s _ ih => exact fun n hn => ih n hn
  | comment s t _ ih => exact fun n hn => ih n hn
  | instruction target s t _ ih => exact fun n hn => ih n hn
  | reference name _ ih => exact fun n hn => ih n hn

/-- A heading stays one when it grows. -/
theorem isHeader_of_growsTo {n' : Node} (h : n.GrowsTo n') (hn : isHeader level name n = true) :
    isHeader level name n' = true := by
  rw [isHeader, Bool.and_eq_true] at hn ⊢
  refine ⟨(h.isNamed_eq _).trans hn.1, ?_⟩
  have hh := hn.2
  unfold isHeading at hh ⊢
  split at hh
  · rename_i anchor ha
    obtain ⟨anchor', ha', hg⟩ := h.grows_content.find?_plain _ anchor ha
    rw [ha']
    exact (congrArg (· == some name) (hg.attribute?_eq "name")).trans hh
  · cases hh

/-! ### Where a heading is found -/

/-- The first heading over a section with a name among placed nodes. -/
def firstHeader? (level : HeaderLevel) (name : String) (placed : List (Place × Node)) : Option Place :=
  (placed.find? fun e => isHeader level name e.2).map Prod.fst

/-- A heading is found in document order. -/
theorem headingPlace?_eq (h : nodeAt? content root = some n) (level : HeaderLevel) (name : String) :
    headingPlace? content root level name = firstHeader? level name (placedFrom root 0 n.content) := by
  have hp (p : Place) (m : Node) (hm : (p, m) ∈ placedFrom root 0 n.content) :
      nodeAt? content p = some m := by
    obtain ⟨k, r, rfl, hr⟩ := exists_nodeAt?_of_mem_placedFrom _ _ _ _ _ hm
    rw [nodeAt?_append (ne_nil_of_nodeAt? h) (List.cons_ne_nil _ _), h, Nat.zero_add]
    exact hr
  rw [headingPlace?, placesBelow, h, firstHeader?]
  show (((placedFrom root 0 n.content).filter _).map Prod.fst).find? _ = _
  rw [List.find?_map, List.find?_filter]
  refine congrArg (Option.map Prod.fst) ?_
  generalize placedFrom root 0 n.content = placed at hp
  induction placed with
  | nil => rfl
  | cons e placed ih =>
    have he := hp e.1 e.2 (.head _)
    rw [List.find?_cons, List.find?_cons, ih fun p m hm => hp p m (.tail _ hm)]
    simp only [Function.comp_apply, he, Option.map_some, Option.getD_some, Bool.decide_and,
      Bool.decide_eq_true]
    rfl

theorem firstHeader?_cons (e : Place × Node) (placed : List (Place × Node)) :
    firstHeader? level name (e :: placed) =
      if isHeader level name e.2 then some e.1 else firstHeader? level name placed := by
  rw [firstHeader?, List.find?_cons]
  cases isHeader level name e.2 <;> rfl

theorem firstHeader?_append (placed placed' : List (Place × Node)) :
    firstHeader? level name (placed ++ placed') =
      (firstHeader? level name placed).or (firstHeader? level name placed') := by
  rw [firstHeader?, firstHeader?, firstHeader?, List.find?_append]
  cases placed.find? fun e => isHeader level name e.2 <;> rfl

theorem isText_of_isHeader (h : isHeader level name n = true) : n.isText = false := by
  cases n with
  | text s => simp [isHeader, Node.isNamed, Node.localName?, Node.tag?] at h
  | _ => rfl

/-- There is nothing to find in content that holds no heading over the section. -/
theorem firstHeader?_eq_none_iff :
    firstHeader? level name (placedFrom here i content) = none ↔
      anywhere (isHeader level name) content = false := by
  have hf (m : Node) (hm : isHeader level name m = true) :
      m ∈ familyOfAll content ↔ ∃ p, (p, m) ∈ placedFrom here i content := by
    have := map_snd_placedFrom content here i
    rw [← (List.mem_filter (p := (!Node.isText ·))).trans (and_iff_left
      (by rw [isText_of_isHeader hm]; rfl)), ← this]
    simp
  rw [firstHeader?, Option.map_eq_none_iff, List.find?_eq_none, anywhere, List.any_eq_false]
  constructor
  · intro h m hm hh
    obtain ⟨p, hp⟩ := (hf m hh).mp hm
    exact h _ hp hh
  · exact fun h e he hh => h e.2 ((hf e.2 hh).mpr ⟨e.1, he⟩) hh

/-- A heading that is found stands in the content that was searched. -/
theorem exists_of_firstHeader? (h : firstHeader? level name (placedFrom here i content) = some p) :
    ∃ k r m, p = here ++ (i + k) :: r ∧ nodeAt? content (k :: r) = some m ∧ isHeader level name m = true := by
  obtain ⟨⟨p', m⟩, he, rfl⟩ := Option.map_eq_some_iff.mp h
  obtain ⟨k, r, hq, hm⟩ := exists_nodeAt?_of_mem_placedFrom _ _ _ _ _ (List.mem_of_find?_eq_some he)
  have hh := List.find?_some he
  exact ⟨k, r, m, hq, hm, hh⟩

/-! ### What is never found as a block -/

/-- A node that neither is nor holds a heading of some level, and before which stands none, does not
become the block of a section, and nothing in it does. -/
theorem not_prefix_next_of_headingPlace? {before : Node}
    (hq : nodeAt? content (q ++ [i + 1]) = some n) (hn : anywhere (Node.isNamed level.label) [n] = false)
    (hb : nodeAt? content (q ++ [i]) = some before) (hl : before.isNamed level.label = false)
    (h : headingPlace? content root level name = some p) : ¬ q ++ [i + 1] <+: p.next := by
  obtain ⟨root', hr⟩ : ∃ r, nodeAt? content root = some r := by
    cases hr : nodeAt? content root with
    | none => simp [headingPlace?, placesBelow, hr] at h
    | some r => exact ⟨r, rfl⟩
  rw [headingPlace?_eq hr] at h
  obtain ⟨k, r, m, rfl, hm, hh⟩ := exists_of_firstHeader? h
  have hm : nodeAt? content (root ++ (0 + k) :: r) = some m := by
    rw [nodeAt?_append (ne_nil_of_nodeAt? hr) (List.cons_ne_nil _ _), hr, Nat.zero_add]
    exact hm
  have hm' : m.isNamed level.label = true := isNamed_of_isHeader hh
  -- a heading does not stand at or below the place
  have hnot : ¬ q ++ [i + 1] <+: root ++ (0 + k) :: r := by
    rintro ⟨s, hs⟩
    rw [← hs] at hm
    refine absurd (List.any_eq_false.mp hn m ?_) (not_not_intro hm')
    rw [familyOfAll, familyOfAll, List.append_nil]
    cases s with
    | nil =>
      rw [List.append_nil, hq, Option.some.injEq] at hm
      exact hm ▸ n.mem_family
    | cons j s =>
      rw [nodeAt?_append (List.concat_ne_nil _ _) (List.cons_ne_nil j s), hq] at hm
      exact mem_familyOfAll_of_mem_content (mem_familyOfAll_of_nodeAt? hm)
  obtain ⟨s, j, hs⟩ : ∃ s j, root ++ (0 + k) :: r = s ++ [j] :=
    ⟨_, _, (List.dropLast_append_getLast (by simp)).symm⟩
  rw [hs] at hm hnot ⊢
  rw [Place.next_snoc]
  intro hp
  rcases List.prefix_concat_iff.mp hp with he | hp
  · obtain ⟨rfl, hij⟩ := List.append_inj' he rfl
    rw [List.cons.injEq, Nat.add_right_cancel_iff] at hij
    rw [← hij.1, hb, Option.some.injEq] at hm
    rw [hm, hm'] at hl
    cases hl
  · exact hnot (hp.trans (List.prefix_append s [j]))

/-! ### Headings in the layout -/

@[simp] theorem isNamed_element (e : PageElement) (attributes : List Attribute) (inner : List Node)
    (level : HeaderLevel) :
    Node.isNamed level.label (.element (.plain e.label attributes) inner) = false := by
  cases e <;> cases level <;> rfl

@[simp] theorem isNamed_text (s label : String) : Node.isNamed label (.text s) = false := rfl

theorem isHeader_of_not_isNamed (h : n.isNamed level.label = false) : isHeader level name n = false := by
  rw [isHeader, h, Bool.false_and]

@[simp] theorem isHeader_element (e : PageElement) (attributes : List Attribute) (inner : List Node) :
    isHeader level name (.element (.plain e.label attributes) inner) = false :=
  isHeader_of_not_isNamed (isNamed_element e attributes inner level)

@[simp] theorem isHeader_text (s : String) : isHeader level name (.text s) = false := rfl

@[simp] theorem isHeader_heading (name' : String) :
    isHeader level name (Layout.heading level name') = (name' == name) := by
  have ha (v : String) : (Attribute.plain "name" v).value = v := by
    simp [Attribute.value, Attribute.plain, Piece.reading, String.join]
  have hn : (Layout.heading level name').isNamed level.label = true := by
    cases level <;> rfl
  rw [isHeader, hn, Bool.true_and]
  show (some (Attribute.plain "name" name').value == some name) = _
  rw [ha]
  rfl

theorem isNamed_heading {level' : HeaderLevel} (h : level' ≠ level) :
    (Layout.heading level' name).isNamed level.label = false := by
  cases level <;> cases level' <;> first | rfl | exact absurd rfl h

theorem anywhere_heading {P : Node → Bool} (hP : ∀ n, P n = true → n.isNamed level.label = true)
    (level' : HeaderLevel) (rest : List Node) :
    anywhere P (Layout.heading level' name :: rest) =
      (P (Layout.heading level' name) || anywhere P rest) := by
  have hf (n : Node) (hn : n.isNamed level.label = false) : P n = false := by
    rw [Bool.eq_false_iff]
    exact fun h => Bool.eq_false_iff.mp hn (hP n h)
  simp only [Layout.heading, anywhere_element, anywhere_text, anywhere_nil, hf _ (isNamed_text _ _),
    hf _ (isNamed_element PageElement.anchor _ _ _), Bool.or_false]

theorem anywhere_entries (level : HeaderLevel) (l : List (String × String)) :
    anywhere (Node.isNamed level.label) (Layout.entries l) = false := by
  induction l with
  | nil => rfl
  | cons e l ih =>
    rw [Layout.entries, List.map_cons, Layout.entry, Layout.holder, anywhere_element, isNamed_element]
    simpa [Layout.linked, Layout.entries] using ih

end ReleaseNotes
