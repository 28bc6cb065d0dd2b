import ReleaseNotes.Proofs.Heading

/-!
# Document order

Places in document order: a node stands before all that is in it, and that before all that follows the node. This is
the order `<` of places as lists of numbers. All that stands below a node is listed in this order
(`pairwise_placedFrom`), so the heading that is found for a section is the first one
(`first_of_headingPlace?`). And where something is added at the end of an element, every place is one from before or
one in what was added (`nodeAt?_appendAt_cases`).
-/

namespace ReleaseNotes.Markup

variable {content more new : List Node} {here p q root : Place} {m n : Node} {i j k : Nat}

/-! ### All that stands below a node -/

theorem lt_append_cons (p : Place) (i : Nat) (q : Place) : p < p ++ i :: q := by
  have h : p ++ [] < p ++ i :: q := List.append_left_lt (List.nil_lt_cons i q)
  rwa [List.append_nil] at h

theorem append_cons_lt (p : Place) (h : i < j) (q r : Place) : p ++ i :: q < p ++ j :: r :=
  List.append_left_lt (List.cons_lt_cons_iff.mpr (.inl h))

mutual

theorem Node.pairwise_placed : ∀ (n : Node) (here : Place), (n.placed here).Pairwise fun e e' => e.1 < e'.1
  | .element tag content, here => by
    rw [Node.placed, List.pairwise_cons]
    refine ⟨fun e he => ?_, pairwise_placedFrom content here 0⟩
    obtain ⟨k, r, hq, -⟩ := exists_nodeAt?_of_mem_placedFrom content here 0 e.1 e.2 he
    rw [hq]
    exact lt_append_cons here _ r
  | .text s, here => List.pairwise_singleton _ _
  | .comment s, here => List.pairwise_singleton _ _
  | .instruction target data, here => List.pairwise_singleton _ _
  | .reference name, here => List.pairwise_singleton _ _

/-- All that stands in some content is listed in document order. -/
theorem pairwise_placedFrom :
    ∀ (content : List Node) (here : Place) (i : Nat), (placedFrom here i content).Pairwise fun e e' => e.1 < e'.1
  | [], here, i => by
    rw [placedFrom]
    exact .nil
  | n :: rest, here, i => by
    cases hn : n.isText with
    | true =>
      rw [placedFrom_cons_of_isText hn]
      exact pairwise_placedFrom rest here i
    | false =>
      rw [placedFrom_cons hn, List.pairwise_append]
      refine ⟨Node.pairwise_placed n _, pairwise_placedFrom rest here (i + 1), fun e he e' he' => ?_⟩
      obtain ⟨k, r, hq, -⟩ := exists_nodeAt?_of_mem_placedFrom rest here (i + 1) e'.1 e'.2 he'
      obtain ⟨s, hs⟩ : ∃ s, e.1 = here ++ i :: s := by
        rcases Node.eq_or_nodeAt?_of_mem_placed n _ e.1 e.2 he with ⟨hp, -⟩ | ⟨s, hp, -⟩
        · exact ⟨[], hp⟩
        · exact ⟨s, by rw [hp, List.append_assoc]; rfl⟩
      rw [hs, hq]
      exact append_cons_lt here (by omega) s r

end

theorem Node.mem_placed (hn : n.isText = false) (here : Place) : (here, n) ∈ n.placed here := by
  cases n with
  | text s => cases hn
  | element tag content => exact .head _
  | _ => exact List.mem_singleton.mpr rfl

/-- All that stands in some content is listed with its place. -/
theorem mem_placedFrom (h : nodeAt? content (k :: q) = some m) (here : Place) (i : Nat) :
    (here ++ (i + k) :: q, m) ∈ placedFrom here i content := by
  induction q generalizing content k here i with
  | nil =>
    have hm := (mem_of_childAt? h).2
    obtain ⟨before, after, rfl, rfl⟩ := exists_eq_append_of_childAt? h
    rw [placedFrom_append, placedFrom_cons hm]
    exact List.mem_append_right _ (List.mem_append_left _ (Node.mem_placed hm _))
  | cons l q ih =>
    rw [nodeAt?_cons (List.cons_ne_nil l q)] at h
    obtain ⟨n, hc, hm⟩ := Option.bind_eq_some_iff.mp h
    have hn := (mem_of_childAt? hc).2
    obtain ⟨before, after, rfl, rfl⟩ := exists_eq_append_of_childAt? hc
    rw [placedFrom_append, placedFrom_cons hn]
    refine List.mem_append_right _ (List.mem_append_left _ ?_)
    cases n with
    | element tag inner =>
      have := ih hm (here ++ [i + childCount before]) 0
      rw [Nat.zero_add, List.append_assoc] at this
      rw [Node.placed]
      exact .tail _ this
    | _ => exact absurd hm (by simp [Node.content])

/-! ### What is added at an end -/

theorem nodeAt?_cons_congr (h : childAt? content i = childAt? more j) (q : Place) :
    nodeAt? content (i :: q) = nodeAt? more (j :: q) := by
  cases q with
  | nil => exact h
  | cons k q => rw [nodeAt?_cons (List.cons_ne_nil k q), nodeAt?_cons (List.cons_ne_nil k q), h]

theorem nodeAt?_of_childAt? {tag : Tag} {inner : List Node} (hc : childAt? content i = some (.element tag inner))
    (h : nodeAt? inner q = some m) : nodeAt? content (i :: q) = some m := by
  rw [nodeAt?_cons (ne_nil_of_nodeAt? h), hc]
  exact h

theorem nodeAt?_append_cases (h : nodeAt? (content ++ more) q = some m) :
    nodeAt? content q = some m ∨ ∃ i r, q = (childCount content + i) :: r ∧ nodeAt? more (i :: r) = some m := by
  obtain ⟨k, r, rfl⟩ := List.exists_cons_of_ne_nil (ne_nil_of_nodeAt? h)
  have hc := childAt?_append content more k
  by_cases hk : k < childCount content
  · rw [if_pos hk] at hc
    exact .inl ((nodeAt?_cons_congr hc r).symm.trans h)
  · rw [if_neg hk] at hc
    exact .inr ⟨k - childCount content, r, by rw [Nat.add_sub_cancel' (Nat.not_lt.mp hk)],
      (nodeAt?_cons_congr hc r).symm.trans h⟩

theorem nodeAt?_changeChild_cases {g : List Node → List Node}
    (h : nodeAt? (changeChild (Node.mapContent g) content i) q = some m) :
    (∃ m', nodeAt? content q = some m') ∨
      ∃ tag inner r, childAt? content i = some (.element tag inner) ∧ q = i :: r ∧ nodeAt? (g inner) r = some m := by
  obtain ⟨j, r, rfl⟩ := List.exists_cons_of_ne_nil (ne_nil_of_nodeAt? h)
  by_cases hij : i = j
  · subst hij
    cases hc : childAt? content i with
    | none =>
      rw [changeChild_of_none hc] at h
      exact .inl ⟨m, h⟩
    | some n =>
      cases r with
      | nil => exact .inl ⟨n, hc⟩
      | cons k r =>
        rw [nodeAt?_cons (List.cons_ne_nil k r),
          childAt?_changeChild_self hc (isText_mapContent_of_childAt? hc)] at h
        cases n with
        | element tag inner => exact .inr ⟨tag, inner, k :: r, rfl, rfl, h⟩
        | _ => exact absurd h (by simp [Node.mapContent, Node.content])
  · have hc : childAt? (changeChild (Node.mapContent g) content i) j = childAt? content j :=
      childAt?_changeChild_of_ne hij fun n hn => isText_mapContent_of_childAt? hn
    exact .inl ⟨m, (nodeAt?_cons_congr hc r).symm.trans h⟩

/-- What stands in some content after something was added at the end of an element stood there before, perhaps with
less in it, or has been added. -/
theorem nodeAt?_appendAt_cases (h : nodeAt? (appendAt here new content) q = some m) :
    (∃ m', nodeAt? content q = some m') ∨
      ∃ tag inner i r, nodeAt? content here = some (.element tag inner) ∧
        q = here ++ (childCount inner + i) :: r ∧ nodeAt? new (i :: r) = some m := by
  induction here generalizing content q with
  | nil => exact .inl ⟨m, h⟩
  | cons i here ih =>
    cases here with
    | nil =>
      rcases nodeAt?_changeChild_cases h with hold | ⟨tag, inner, r, hc, rfl, hm⟩
      · exact .inl hold
      · rcases nodeAt?_append_cases hm with hin | ⟨k, s, rfl, hnew⟩
        · exact .inl ⟨m, nodeAt?_of_childAt? hc hin⟩
        · exact .inr ⟨tag, inner, k, s, hc, rfl, hnew⟩
    | cons j here =>
      rcases nodeAt?_changeChild_cases h with hold | ⟨tag, inner, r, hc, rfl, hm⟩
      · exact .inl hold
      · rcases ih hm with ⟨m', hin⟩ | ⟨tag', inner', k, s, hh, rfl, hnew⟩
        · exact .inl ⟨m', nodeAt?_of_childAt? hc hin⟩
        · exact .inr ⟨tag', inner', k, s, nodeAt?_of_childAt? hc hh, rfl, hnew⟩

theorem childCount_changeChild {f : Node → Node} (h : ∀ n, childAt? content i = some n → (f n).isText = false) :
    childCount (changeChild f content i) = childCount content := by
  cases hc : childAt? content i with
  | none => rw [changeChild_of_none hc]
  | some n =>
    have hn := (mem_of_childAt? hc).2
    have hf := h n hc
    obtain ⟨before, after, rfl, rfl⟩ := exists_eq_append_of_childAt? hc
    rw [changeChild_mid hn, childCount_append, childCount_append, childCount_cons hf, childCount_cons hn]

theorem childCount_appendAt (here : Place) (new content : List Node) :
    childCount (appendAt here new content) = childCount content := by
  rcases here with _ | ⟨i, _ | ⟨j, here⟩⟩
  · rfl
  · exact childCount_changeChild fun n hn => isText_mapContent_of_childAt? hn
  · exact childCount_changeChild fun n hn => isText_mapContent_of_childAt? hn

end ReleaseNotes.Markup

namespace ReleaseNotes

open Markup

variable {content : List Node} {p q root : Place} {m n : Node} {k : Nat} {level : HeaderLevel} {name : String}

/-! ### The first heading -/

/-- What is found in a list that stands in order comes first of all like it. -/
theorem first_of_find? {placed : List (Place × Node)} {P : Place × Node → Bool} {e : Place × Node}
    (ho : placed.Pairwise fun e e' => e.1 < e'.1) (hf : placed.find? P = some e) :
    ∀ e' ∈ placed, P e' → ¬ e'.1 < e.1 := by
  intro e' he' hP
  obtain ⟨-, before, after, rfl, hbefore⟩ := List.find?_eq_some_iff_append.mp hf
  rcases List.mem_append.mp he' with hb | ha
  · have := hbefore e' hb
    rw [hP] at this
    cases this
  · rcases List.mem_cons.mp ha with rfl | ha
    · exact List.lt_irrefl _
    · exact List.lt_asymm ((List.pairwise_cons.mp (List.pairwise_append.mp ho).2.1).1 e' ha)

theorem mem_placedFrom_of_nodeAt? (hr : nodeAt? content root = some n) (h : nodeAt? content (root ++ k :: q) = some m) :
    (root ++ k :: q, m) ∈ placedFrom root 0 n.content := by
  rw [nodeAt?_append (ne_nil_of_nodeAt? hr) (List.cons_ne_nil k q), hr] at h
  have := mem_placedFrom h root 0
  rwa [Nat.zero_add] at this

/-- The heading that is found is one over such a section, and no other one stands before it. -/
theorem first_of_headingPlace? (hr : nodeAt? content root = some n)
    (h : headingPlace? content root level name = some p) :
    (∃ m, nodeAt? content p = some m ∧ isHeader level name m) ∧
      ∀ k q m, nodeAt? content (root ++ k :: q) = some m → isHeader level name m → ¬ root ++ k :: q < p := by
  rw [headingPlace?_eq hr] at h
  obtain ⟨k, r, m, rfl, hm, hh⟩ := exists_of_firstHeader? h
  obtain ⟨e, he, hp⟩ := Option.map_eq_some_iff.mp h
  rw [← hp]
  refine ⟨⟨m, ?_, hh⟩, fun k q m hq hm => ?_⟩
  · rw [hp, nodeAt?_append (ne_nil_of_nodeAt? hr) (List.cons_ne_nil _ _), hr, Nat.zero_add]
    exact hm
  · exact first_of_find? (pairwise_placedFrom n.content root 0) he _ (mem_placedFrom_of_nodeAt? hr hq) hm

/-- If none is found there is none. -/
theorem isHeader_of_headingPlace?_eq_none (hr : nodeAt? content root = some n)
    (h : headingPlace? content root level name = none) (hq : nodeAt? content (root ++ k :: q) = some m) :
    isHeader level name m = false := by
  rw [headingPlace?_eq hr, firstHeader?, Option.map_eq_none_iff, List.find?_eq_none] at h
  exact Bool.eq_false_iff.mpr (h _ (mem_placedFrom_of_nodeAt? hr hq))

end ReleaseNotes
