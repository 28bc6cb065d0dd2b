import Mathlib.Data.List.Basic
import ReleaseNotes.Markup.Place

/-!
# Places and changes

How the node at a place (`nodeAt?`) and a change at a place (`changeAt`) get on with each other. A
change at a place is seen there and above it and nowhere else, and two changes at one place are one
change. A change that keeps all that stands in the changed node leaves every node that is not around
it as it was (`nodeAt?_changeAt_of_not_prefix`). What is added at the end of an element is added with
`appendAt`, and a change of a node that was just added is the addition of the changed node
(`changeAt_appendAt`).
-/

namespace ReleaseNotes.Markup

variable {content more : List Node} {n m : Node} {f g : Node → Node} {i j : Nat} {p q : Place}

/-! ### Children -/

theorem childAt?_cons_of_isText (h : n.isText = true) :
    childAt? (n :: content) i = childAt? content i := by
  cases i <;> simp [childAt?, h]

theorem childAt?_cons_zero (h : n.isText = false) : childAt? (n :: content) 0 = some n := by
  simp [childAt?, h]

theorem childAt?_cons_succ (h : n.isText = false) :
    childAt? (n :: content) (i + 1) = childAt? content i := by
  simp [childAt?, h]

theorem changeChild_cons_of_isText (h : n.isText = true) :
    changeChild f (n :: content) i = n :: changeChild f content i := by
  cases i <;> simp [changeChild, h]

theorem changeChild_cons_zero (h : n.isText = false) :
    changeChild f (n :: content) 0 = f n :: content := by
  simp [changeChild, h]

theorem changeChild_cons_succ (h : n.isText = false) :
    changeChild f (n :: content) (i + 1) = n :: changeChild f content i := by
  simp [changeChild, h]

@[simp] theorem childCount_nil : childCount [] = 0 := rfl

theorem childCount_append (content more : List Node) :
    childCount (content ++ more) = childCount content + childCount more :=
  List.countP_append

theorem childCount_cons_of_isText (h : n.isText = true) :
    childCount (n :: content) = childCount content := by
  simp [childCount, h]

theorem childCount_cons (h : n.isText = false) :
    childCount (n :: content) = childCount content + 1 := by
  simp [childCount, h]

theorem childAt?_append (content more : List Node) (i : Nat) :
    childAt? (content ++ more) i =
      if i < childCount content then childAt? content i else childAt? more (i - childCount content) := by
  induction content generalizing i with
  | nil => simp
  | cons n content ih =>
    rw [List.cons_append]
    by_cases h : n.isText = true
    · rw [childAt?_cons_of_isText h, childAt?_cons_of_isText h, childCount_cons_of_isText h, ih]
    · rw [Bool.not_eq_true] at h
      rw [childCount_cons h]
      cases i with
      | zero => simp [childAt?_cons_zero h]
      | succ i =>
        rw [childAt?_cons_succ h, childAt?_cons_succ h, ih, Nat.add_sub_add_right]
        simp only [Nat.add_lt_add_iff_right]

theorem changeChild_append (content more : List Node) (i : Nat) :
    changeChild f (content ++ more) i =
      if i < childCount content then changeChild f content i ++ more
      else content ++ changeChild f more (i - childCount content) := by
  induction content generalizing i with
  | nil => simp
  | cons n content ih =>
    rw [List.cons_append]
    by_cases h : n.isText = true
    · rw [changeChild_cons_of_isText h, changeChild_cons_of_isText h, childCount_cons_of_isText h, ih]
      split <;> rfl
    · rw [Bool.not_eq_true] at h
      rw [childCount_cons h]
      cases i with
      | zero => simp [changeChild_cons_zero h]
      | succ i =>
        rw [changeChild_cons_succ h, changeChild_cons_succ h, ih, Nat.add_sub_add_right]
        simp only [Nat.add_lt_add_iff_right]
        split <;> rfl

theorem childAt?_eq_none (h : childCount content ≤ i) : childAt? content i = none := by
  have := childAt?_append content [] i
  rwa [List.append_nil, if_neg (Nat.not_lt.mpr h)] at this

theorem lt_childCount (h : childAt? content i = some n) : i < childCount content := by
  by_contra hge
  rw [childAt?_eq_none (Nat.not_lt.mp hge)] at h
  cases h

theorem mem_of_childAt? (h : childAt? content i = some n) : n ∈ content ∧ n.isText = false := by
  induction content generalizing i with
  | nil => cases h
  | cons m content ih =>
    by_cases hm : m.isText = true
    · rw [childAt?_cons_of_isText hm] at h
      exact ⟨.tail _ (ih h).1, (ih h).2⟩
    · rw [Bool.not_eq_true] at hm
      cases i with
      | zero =>
        rw [childAt?_cons_zero hm, Option.some.injEq] at h
        exact h ▸ ⟨.head _, hm⟩
      | succ i =>
        rw [childAt?_cons_succ hm] at h
        exact ⟨.tail _ (ih h).1, (ih h).2⟩

theorem changeChild_of_none (h : childAt? content i = none) : changeChild f content i = content := by
  induction content generalizing i with
  | nil => rfl
  | cons n content ih =>
    by_cases hn : n.isText = true
    · rw [childAt?_cons_of_isText hn] at h
      rw [changeChild_cons_of_isText hn, ih h]
    · rw [Bool.not_eq_true] at hn
      cases i with
      | zero => simp [childAt?_cons_zero hn] at h
      | succ i =>
        rw [childAt?_cons_succ hn] at h
        rw [changeChild_cons_succ hn, ih h]

/-- A child splits the content around it. -/
theorem exists_eq_append_of_childAt? (h : childAt? content i = some n) :
    ∃ before after, content = before ++ n :: after ∧ childCount before = i := by
  induction content generalizing i with
  | nil => cases h
  | cons m content ih =>
    by_cases hm : m.isText = true
    · rw [childAt?_cons_of_isText hm] at h
      obtain ⟨before, after, rfl, hi⟩ := ih h
      exact ⟨m :: before, after, rfl, by rw [childCount_cons_of_isText hm, hi]⟩
    · rw [Bool.not_eq_true] at hm
      cases i with
      | zero =>
        rw [childAt?_cons_zero hm, Option.some.injEq] at h
        exact ⟨[], content, by rw [h]; rfl, rfl⟩
      | succ i =>
        rw [childAt?_cons_succ hm] at h
        obtain ⟨before, after, rfl, hi⟩ := ih h
        exact ⟨m :: before, after, rfl, by rw [childCount_cons hm, hi]⟩

theorem childAt?_mid (h : n.isText = false) :
    childAt? (content ++ n :: more) (childCount content) = some n := by
  rw [childAt?_append, if_neg (Nat.lt_irrefl _), Nat.sub_self, childAt?_cons_zero h]

theorem changeChild_mid (h : n.isText = false) :
    changeChild f (content ++ n :: more) (childCount content) = content ++ f n :: more := by
  rw [changeChild_append, if_neg (Nat.lt_irrefl _), Nat.sub_self, changeChild_cons_zero h]

theorem childAt?_changeChild_self (h : childAt? content i = some n) (hf : (f n).isText = false) :
    childAt? (changeChild f content i) i = some (f n) := by
  obtain ⟨before, after, rfl, rfl⟩ := exists_eq_append_of_childAt? h
  rw [changeChild_mid (mem_of_childAt? h).2, childAt?_mid hf]

theorem childAt?_changeChild_of_ne (hij : i ≠ j)
    (hf : ∀ n, childAt? content i = some n → (f n).isText = false) :
    childAt? (changeChild f content i) j = childAt? content j := by
  cases h : childAt? content i with
  | none => rw [changeChild_of_none h]
  | some n =>
    obtain ⟨before, after, rfl, rfl⟩ := exists_eq_append_of_childAt? h
    rw [changeChild_mid (mem_of_childAt? h).2, childAt?_append, childAt?_append]
    split
    · rfl
    · obtain ⟨k, hk⟩ : ∃ k, j - childCount before = k + 1 := ⟨j - childCount before - 1, by omega⟩
      rw [hk, childAt?_cons_succ (hf n h), childAt?_cons_succ (mem_of_childAt? h).2]

theorem changeChild_congr (h : ∀ n, childAt? content i = some n → f n = g n) :
    changeChild f content i = changeChild g content i := by
  cases hc : childAt? content i with
  | none => rw [changeChild_of_none hc, changeChild_of_none hc]
  | some n =>
    obtain ⟨before, after, rfl, rfl⟩ := exists_eq_append_of_childAt? hc
    have hn := (mem_of_childAt? hc).2
    rw [changeChild_mid hn, changeChild_mid hn, h n hc]

theorem changeChild_changeChild (hf : ∀ n, childAt? content i = some n → (f n).isText = false) :
    changeChild g (changeChild f content i) i = changeChild (fun n => g (f n)) content i := by
  cases hc : childAt? content i with
  | none => rw [changeChild_of_none hc, changeChild_of_none hc, changeChild_of_none hc]
  | some n =>
    obtain ⟨before, after, rfl, rfl⟩ := exists_eq_append_of_childAt? hc
    have hn := (mem_of_childAt? hc).2
    rw [changeChild_mid hn, changeChild_mid (hf n hc), changeChild_mid hn]

theorem changeChild_self (h : ∀ n, childAt? content i = some n → f n = n) :
    changeChild f content i = content := by
  cases hc : childAt? content i with
  | none => rw [changeChild_of_none hc]
  | some n =>
    obtain ⟨before, after, rfl, rfl⟩ := exists_eq_append_of_childAt? hc
    rw [changeChild_mid (mem_of_childAt? hc).2, h n hc]

/-! ### Nodes at places -/

theorem Node.isText_mapContent (f : List Node → List Node) (n : Node) :
    (n.mapContent f).isText = n.isText := by
  cases n <;> rfl

theorem isText_mapContent_of_childAt? {h : List Node → List Node} (hn : childAt? content i = some n) :
    (n.mapContent h).isText = false := by
  rw [Node.isText_mapContent]
  exact (mem_of_childAt? hn).2

theorem Node.mapContent_mapContent (f g : List Node → List Node) (n : Node) :
    (n.mapContent f).mapContent g = n.mapContent fun c => g (f c) := by
  cases n <;> rfl

/-- The node at a place in the content of the node at a place. -/
theorem nodeAt?_append (hp : p ≠ []) (hq : q ≠ []) :
    nodeAt? content (p ++ q) = (nodeAt? content p).bind fun n => nodeAt? n.content q := by
  induction p generalizing content with
  | nil => exact absurd rfl hp
  | cons i p ih =>
    cases p with
    | nil =>
      obtain ⟨j, q, rfl⟩ := List.exists_cons_of_ne_nil hq
      rfl
    | cons j p =>
      show ((childAt? content i).bind fun n => nodeAt? n.content (j :: p ++ q)) = _
      simp only [ih (List.cons_ne_nil j p)]
      exact (Option.bind_assoc _ _ _).symm

theorem nodeAt?_cons (hq : q ≠ []) :
    nodeAt? content (i :: q) = (childAt? content i).bind fun n => nodeAt? n.content q :=
  nodeAt?_append (List.cons_ne_nil i []) hq

theorem nodeAt?_snoc (hp : p ≠ []) :
    nodeAt? content (p ++ [i]) = (nodeAt? content p).bind fun n => childAt? n.content i :=
  nodeAt?_append hp (List.cons_ne_nil i [])

@[simp] theorem nodeAt?_of_nil (p : Place) : nodeAt? [] p = none := by
  rcases p with _ | ⟨i, _ | ⟨j, p⟩⟩ <;> rfl

theorem isText_of_nodeAt? (h : nodeAt? content p = some n) : n.isText = false := by
  induction p generalizing content with
  | nil => cases h
  | cons i p ih =>
    cases p with
    | nil => exact (mem_of_childAt? h).2
    | cons j p =>
      obtain ⟨m, -, hm⟩ := Option.bind_eq_some_iff.mp h
      exact ih hm

theorem isText_mapContent_of_nodeAt? {h : List Node → List Node} (hn : nodeAt? content p = some n) :
    (n.mapContent h).isText = false := by
  rw [Node.isText_mapContent]
  exact isText_of_nodeAt? hn

theorem lt_childCount_of_nodeAt? (h : nodeAt? content (i :: p) = some n) : i < childCount content := by
  cases p with
  | nil => exact lt_childCount h
  | cons j p =>
    obtain ⟨m, hm, -⟩ := Option.bind_eq_some_iff.mp h
    exact lt_childCount hm

theorem ne_nil_of_nodeAt? (h : nodeAt? content p = some n) : p ≠ [] := by
  rintro rfl
  cases h

/-- The change at a place in the content of the node at a place. -/
theorem changeAt_append (hp : p ≠ []) (hq : q ≠ []) :
    changeAt f content (p ++ q) = changeAt (Node.mapContent fun inner => changeAt f inner q) content p := by
  induction p generalizing content with
  | nil => exact absurd rfl hp
  | cons i p ih =>
    cases p with
    | nil =>
      obtain ⟨j, q, rfl⟩ := List.exists_cons_of_ne_nil hq
      rfl
    | cons j p =>
      show changeChild (Node.mapContent fun inner => changeAt f inner (j :: p ++ q)) content i = _
      simp only [ih (List.cons_ne_nil j p)]
      rfl

theorem changeAt_cons (hq : q ≠ []) :
    changeAt f content (i :: q) = changeChild (Node.mapContent fun inner => changeAt f inner q) content i :=
  changeAt_append (List.cons_ne_nil i []) hq

theorem changeAt_congr (h : ∀ n, nodeAt? content p = some n → f n = g n) :
    changeAt f content p = changeAt g content p := by
  induction p generalizing content with
  | nil => rfl
  | cons i p ih =>
    cases p with
    | nil => exact changeChild_congr h
    | cons j p =>
      refine changeChild_congr fun n hn => ?_
      cases n with
      | element tag inner =>
        refine congrArg (Node.element tag) (ih fun m hm => h m ?_)
        rw [nodeAt?_cons (List.cons_ne_nil j p), hn]
        exact hm
      | _ => rfl

theorem changeAt_self (h : ∀ n, nodeAt? content p = some n → f n = n) :
    changeAt f content p = content := by
  induction p generalizing content with
  | nil => rfl
  | cons i p ih =>
    cases p with
    | nil => exact changeChild_self h
    | cons j p =>
      refine changeChild_self fun n hn => ?_
      cases n with
      | element tag inner =>
        refine congrArg (Node.element tag) (ih fun m hm => h m ?_)
        rw [nodeAt?_cons (List.cons_ne_nil j p), hn]
        exact hm
      | _ => rfl

theorem nodeAt?_changeAt_self (h : nodeAt? content p = some n) (hf : (f n).isText = false) :
    nodeAt? (changeAt f content p) p = some (f n) := by
  induction p generalizing content with
  | nil => cases h
  | cons i p ih =>
    cases p with
    | nil => exact childAt?_changeChild_self h hf
    | cons j p =>
      obtain ⟨m, hi, hm⟩ := Option.bind_eq_some_iff.mp h
      rw [changeAt_cons (List.cons_ne_nil j p), nodeAt?_cons (List.cons_ne_nil j p),
        childAt?_changeChild_self hi (isText_mapContent_of_childAt? hi)]
      cases m with
      | element tag inner => exact ih hm
      | _ => exact absurd hm (by simp [Node.content])

/-- A change at a place that keeps all that stands in the node there leaves every node as it was
that the place is not in. -/
theorem nodeAt?_changeAt_of_not_prefix (h : nodeAt? content q = some m) (hqp : ¬ q <+: p)
    (hf : ∀ n, nodeAt? content p = some n → (f n).isText = false ∧
      ∀ r m, nodeAt? n.content r = some m → nodeAt? (f n).content r = some m) :
    nodeAt? (changeAt f content p) q = some m := by
  induction p generalizing content q with
  | nil => exact h
  | cons i p ih =>
    obtain ⟨j, q, rfl⟩ := List.exists_cons_of_ne_nil (ne_nil_of_nodeAt? h)
    rw [List.cons_prefix_cons, not_and] at hqp
    cases p with
    | nil =>
      by_cases hij : i = j
      · subst hij
        have hq : q ≠ [] := fun hq => hqp rfl (hq ▸ List.nil_prefix)
        rw [nodeAt?_cons hq] at h ⊢
        obtain ⟨n, hn, hm⟩ := Option.bind_eq_some_iff.mp h
        rw [show childAt? (changeAt f content [i]) i = some (f n) from
          childAt?_changeChild_self hn (hf n hn).1]
        exact (hf n hn).2 q m hm
      · have hc : childAt? (changeAt f content [i]) j = childAt? content j :=
          childAt?_changeChild_of_ne hij fun n hn => (hf n hn).1
        cases q with
        | nil => exact hc.trans h
        | cons k q => rwa [nodeAt?_cons (List.cons_ne_nil k q), hc]
    | cons k p =>
      have hkp := List.cons_ne_nil k p
      rw [changeAt_cons hkp]
      by_cases hij : i = j
      · subst hij
        have hq : q ≠ [] := fun hq => hqp rfl (hq ▸ List.nil_prefix)
        rw [nodeAt?_cons hq] at h ⊢
        obtain ⟨n, hn, hm⟩ := Option.bind_eq_some_iff.mp h
        rw [childAt?_changeChild_self hn (isText_mapContent_of_childAt? hn)]
        cases n with
        | element tag inner =>
          refine ih hm (hqp rfl) fun n' hn' => hf n' ?_
          rw [nodeAt?_cons hkp, hn]
          exact hn'
        | _ => exact absurd hm (by simp [Node.content])
      · have hc : childAt? (changeChild (Node.mapContent fun inner => changeAt f inner (k :: p))
          content _) _ =
            childAt? content _ :=
          childAt?_changeChild_of_ne hij fun n hn => isText_mapContent_of_childAt? hn
        cases q with
        | nil => exact hc.trans h
        | cons l q => rwa [nodeAt?_cons (List.cons_ne_nil l q), hc]

/-- Two changes at one place are one change. -/
theorem changeAt_changeAt (hf : ∀ n, nodeAt? content p = some n → (f n).isText = false) :
    changeAt g (changeAt f content p) p = changeAt (fun n => g (f n)) content p := by
  induction p generalizing content with
  | nil => rfl
  | cons i p ih =>
    cases p with
    | nil => exact changeChild_changeChild hf
    | cons j p =>
      have hp := List.cons_ne_nil j p
      rw [changeAt_cons hp, changeAt_cons hp, changeAt_cons hp, changeChild_changeChild
        fun n hn => isText_mapContent_of_childAt? hn]
      refine changeChild_congr fun n hn => ?_
      cases n with
      | element tag inner =>
        refine congrArg (Node.element tag) (ih fun m hm => hf m ?_)
        rw [nodeAt?_cons hp, hn]
        exact hm
      | _ => rfl

/-! ### Adding at the end -/

/-- Content with nodes added at the end of the element at a place. -/
def appendAt (p : Place) (new content : List Node) : List Node :=
  changeAt (Node.mapContent (· ++ new)) content p

theorem appendAt_nil (p : Place) (content : List Node) : appendAt p [] content = content :=
  changeAt_self fun n _ => by cases n <;> simp [Node.mapContent]

theorem appendAt_appendAt (p : Place) (new new' content : List Node) :
    appendAt p new' (appendAt p new content) = appendAt p (new ++ new') content := by
  rw [appendAt, appendAt, changeAt_changeAt fun n hn => isText_mapContent_of_nodeAt? hn]
  simp only [Node.mapContent_mapContent, List.append_assoc]
  rfl

theorem nodeAt?_appendAt {tag : Tag} {inner : List Node} (h : nodeAt? content p = some (.element tag inner))
    (new : List Node) : nodeAt? (appendAt p new content) p = some (.element tag (inner ++ new)) :=
  nodeAt?_changeAt_self h rfl

theorem childAt?_append_of_some (h : childAt? content i = some n) (more : List Node) :
    childAt? (content ++ more) i = some n := by
  rw [childAt?_append, if_pos (lt_childCount h), h]

theorem nodeAt?_append_of_some (h : nodeAt? content p = some n) (more : List Node) :
    nodeAt? (content ++ more) p = some n := by
  obtain ⟨i, p, rfl⟩ := List.exists_cons_of_ne_nil (ne_nil_of_nodeAt? h)
  cases p with
  | nil => exact childAt?_append_of_some h more
  | cons j p =>
    rw [nodeAt?_cons (List.cons_ne_nil j p)] at h ⊢
    obtain ⟨m, hi, hm⟩ := Option.bind_eq_some_iff.mp h
    rw [childAt?_append_of_some hi]
    exact hm

/-- A change of the first of the children that were just added. -/
theorem changeAt_appendAt {tag : Tag} {inner : List Node}
    (h : nodeAt? content p = some (.element tag inner)) (hn : n.isText = false) (new : List Node) :
    changeAt f (appendAt p (n :: new) content) (p ++ [childCount inner]) =
      appendAt p (f n :: new) content := by
  rw [changeAt_append (ne_nil_of_nodeAt? h) (List.cons_ne_nil _ _), appendAt,
    changeAt_changeAt fun m hm => isText_mapContent_of_nodeAt? hm]
  refine changeAt_congr fun m hm => ?_
  rw [h, Option.some.injEq] at hm
  subst hm
  exact congrArg (Node.element tag) (changeChild_mid hn)

/-- The first of the children that were just added. -/
theorem nodeAt?_appendAt_child {tag : Tag} {inner : List Node}
    (h : nodeAt? content p = some (.element tag inner)) (hn : n.isText = false) (new : List Node) :
    nodeAt? (appendAt p (n :: new) content) (p ++ [childCount inner]) = some n := by
  rw [nodeAt?_snoc (ne_nil_of_nodeAt? h), nodeAt?_appendAt h]
  exact childAt?_mid hn

/-- There is nothing after the last child of an element. -/
theorem nodeAt?_snoc_eq_none {tag : Tag} {inner : List Node}
    (h : nodeAt? content p = some (.element tag inner)) (hi : childCount inner ≤ i) :
    nodeAt? content (p ++ [i]) = none := by
  rw [nodeAt?_snoc (ne_nil_of_nodeAt? h), h]
  exact childAt?_eq_none hi

/-- There is nothing where the next child of an element is going to be. -/
theorem nodeAt?_next_child {tag : Tag} {inner : List Node}
    (h : nodeAt? content p = some (.element tag inner)) :
    nodeAt? content (p ++ [childCount inner]) = none :=
  nodeAt?_snoc_eq_none h (Nat.le_refl _)

/-- What comes to stand after the last child of an element does not stand in anything that is there, unless the
element does. -/
theorem not_prefix_snoc_of_nodeAt? {tag : Tag} {inner : List Node} (hq : nodeAt? content q = some n)
    (hp : ¬ q <+: p) (h : nodeAt? content p = some (.element tag inner)) (hi : childCount inner ≤ i) :
    ¬ q <+: p ++ [i] := by
  intro hpre
  rcases List.prefix_concat_iff.mp hpre with rfl | hpre
  · rw [nodeAt?_snoc_eq_none h hi] at hq
    cases hq
  · exact hp hpre

end ReleaseNotes.Markup
