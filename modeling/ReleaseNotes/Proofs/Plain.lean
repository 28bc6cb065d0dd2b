import Mathlib.Data.List.Infix
import Mathlib.Data.List.TakeDrop
import Mathlib.Data.List.TakeWhile
import ReleaseNotes.Proofs.Rebuilding

/-!
# Plain documents

A node is plain if no name in it has anything to do with a namespace and no entity is referred to. Plain
nodes stay as they are when they are copied (`copiedContent_eq`), and they can be read again if they are not
nested too deeply (`isReadable_of_isPlain`).
-/

namespace ReleaseNotes.Markup

/-! ### Plain nodes -/

/-- A name in no namespace that does not look as if it were in one. -/
structure Name.IsPlain (n : Name) : Prop where
  space? : n.space? = none
  label : isNameText n.label
  whole : ':' ∉ n.label.toList

/-- An attribute in no namespace whose value refers to no entity. -/
structure Attribute.IsPlain (a : Attribute) : Prop where
  name : a.name.IsPlain
  free : a.name.label ≠ "xmlns"
  pieces : a.pieces.all Piece.isChars
  value : isLegalText a.value

/-- A tag that has nothing to do with namespaces and refers to no entity. -/
structure Tag.IsPlain (t : Tag) : Prop where
  name : t.name.IsPlain
  declared : t.declared = []
  attributes : ∀ a ∈ t.attributes, a.IsPlain
  distinct : (t.attributes.map (·.name.label)).Nodup

/-- A node without what stands in it has nothing to do with namespaces and entities, and no reader remarks
on it. -/
def Node.IsPlainItself : Node → Prop
  | .element tag _ => tag.IsPlain
  | .text s => isLegalText s
  | .comment s => IsCommentText s
  | .instruction target data => IsInstructionText target data ∧ targetNotices target = []
  | .reference _ => False

/-- A node with all that stands in it is plain. -/
def Node.IsPlain (n : Node) : Prop :=
  ∀ m ∈ n.family, m.IsPlainItself

mutual

/-- How deep elements are nested in a node. -/
def Node.height : Node → Nat
  | .element _ content => heightOfAll content + 1
  | .text _ => 0
  | .comment _ => 0
  | .instruction _ _ => 0
  | .reference _ => 0

/-- How deep elements are nested in some content. -/
def heightOfAll : List Node → Nat
  | [] => 0
  | n :: rest => max n.height (heightOfAll rest)

end

variable {scope : List (List Namespace)} {tag : Tag} {n m : Node} {content : List Node}

theorem isPlain_element_iff : (Node.element tag content).IsPlain ↔ tag.IsPlain ∧ ∀ n ∈ content, n.IsPlain := by
  rw [Node.IsPlain, Node.family, List.forall_mem_cons, forall_mem_familyOfAll_iff]
  rfl

theorem isPlain_iff_of_leaf (h : n.family = [n]) : n.IsPlain ↔ n.IsPlainItself := by
  rw [Node.IsPlain, h, List.forall_mem_singleton]

theorem isPlain_text_iff {s : String} : (Node.text s).IsPlain ↔ isLegalText s :=
  isPlain_iff_of_leaf (by rw [Node.family])

theorem isPlain_comment_iff {s : String} : (Node.comment s).IsPlain ↔ IsCommentText s :=
  isPlain_iff_of_leaf (by rw [Node.family])

theorem isPlain_instruction_iff {target data : String} : (Node.instruction target data).IsPlain ↔
    IsInstructionText target data ∧ targetNotices target = [] :=
  isPlain_iff_of_leaf (by rw [Node.family])

theorem not_isPlain_reference (name : String) : ¬ (Node.reference name).IsPlain :=
  fun h => (isPlain_iff_of_leaf (by rw [Node.family])).mp h

/-! ### Plainness can be decided -/

instance (n : Name) : Decidable n.IsPlain :=
  decidable_of_iff (n.space? = none ∧ isNameText n.label ∧ ':' ∉ n.label.toList)
    ⟨fun h => ⟨h.1, h.2.1, h.2.2⟩, fun h => ⟨h.space?, h.label, h.whole⟩⟩

instance (a : Attribute) : Decidable a.IsPlain :=
  decidable_of_iff (a.name.IsPlain ∧ a.name.label ≠ "xmlns" ∧ a.pieces.all Piece.isChars ∧ isLegalText a.value)
    ⟨fun h => ⟨h.1, h.2.1, h.2.2.1, h.2.2.2⟩, fun h => ⟨h.name, h.free, h.pieces, h.value⟩⟩

instance (t : Tag) : Decidable t.IsPlain :=
  decidable_of_iff (t.name.IsPlain ∧ t.declared = [] ∧ (∀ a ∈ t.attributes, a.IsPlain) ∧
      (t.attributes.map (·.name.label)).Nodup)
    ⟨fun h => ⟨h.1, h.2.1, h.2.2.1, h.2.2.2⟩, fun h => ⟨h.name, h.declared, h.attributes, h.distinct⟩⟩

instance (s : String) : Decidable (IsCommentText s) :=
  decidable_of_iff (isLegalText s ∧ '\r' ∉ s.toList ∧ ¬ ['-', '-'] <:+: s.toList ++ ['-'])
    ⟨fun h => ⟨h.1, h.2.1, h.2.2⟩, fun h => ⟨h.legal, h.noReturn, h.unbroken⟩⟩

instance (target data : String) : Decidable (IsInstructionText target data) :=
  decidable_of_iff (isNameText target ∧ target ≠ "xml" ∧ isLegalText data ∧ '\r' ∉ data.toList ∧
      ¬ ['?', '>'] <:+: data.toList ++ ['?'] ∧ data.toList.head?.all (fun c => !isGap c))
    ⟨fun h => ⟨h.1, h.2.1, h.2.2.1, h.2.2.2.1, h.2.2.2.2.1, fun c hc => by
        have := h.2.2.2.2.2
        rw [Option.mem_def.mp hc] at this
        simpa using this⟩,
      fun h => ⟨h.name, h.free, h.legal, h.noReturn, h.unbroken, by
        cases hd : data.toList.head? with
        | none => rfl
        | some c => simpa using h.apart c hd⟩⟩

instance : DecidablePred Node.IsPlainItself
  | .element tag _ => inferInstanceAs (Decidable tag.IsPlain)
  | .text s => inferInstanceAs (Decidable (isLegalText s = true))
  | .comment s => inferInstanceAs (Decidable (IsCommentText s))
  | .instruction target data =>
    inferInstanceAs (Decidable (IsInstructionText target data ∧ targetNotices target = []))
  | .reference _ => inferInstanceAs (Decidable False)

instance (n : Node) : Decidable n.IsPlain :=
  inferInstanceAs (Decidable (∀ m ∈ n.family, m.IsPlainItself))

/-! ### Plain tags can be read again -/

theorem splitName_of_whole {name : String} (h : ':' ∉ name.toList) : splitName name = ((none, name), []) := by
  have hspan : name.toList.span (· != ':') = (name.toList, []) := by
    have hall : ∀ c ∈ name.toList, (c != ':') = true := fun c hc => bne_iff_ne.mpr fun he => h (he ▸ hc)
    rw [List.span_eq_takeWhile_dropWhile, List.takeWhile_eq_self_iff.mpr hall, List.dropWhile_eq_nil_iff.mpr hall]
  rw [splitName, hspan]

theorem declaration?_eq_none (hs : ∀ declared ∈ scope, declared = []) (short? : Option String) :
    declaration? scope short? = none := by
  rw [declaration?, List.findSome?_eq_none_iff]
  intro declared hd
  rw [hs declared hd]
  rfl

theorem Name.IsPlain.eq {n : Name} (h : n.IsPlain) : n = ⟨none, n.label⟩ := by
  rw [← h.space?]

theorem Name.IsPlain.written_eq {n : Name} (h : n.IsPlain) : n.written = n.label := by
  rw [Name.written, h.space?]
  rfl

theorem resolveAttribute_plain {n : Name} (h : n.IsPlain) (scope : List (List Namespace)) :
    resolveAttribute scope n.written = (n, []) := by
  rw [h.written_eq, resolveAttribute, splitName_of_whole h.whole]
  exact Prod.ext h.eq.symm rfl

theorem resolveElement_plain {n : Name} (h : n.IsPlain) (hs : ∀ declared ∈ scope, declared = []) :
    resolveElement scope n.written = (n, []) := by
  rw [h.written_eq, resolveElement, splitName_of_whole h.whole]
  dsimp only
  rw [declaration?_eq_none hs]
  exact Prod.ext h.eq.symm rfl

namespace Tag.IsPlain

theorem values_eq (h : tag.IsPlain) : tag.values = tag.attributes.map fun a => (a.name.label, a.value) := by
  rw [Tag.values, h.declared, List.map_nil, List.nil_append]
  exact List.map_congr_left fun a ha => by rw [(h.attributes a ha).name.written_eq]

theorem isWritable (h : tag.IsPlain) : tag.IsWritable where
  name := h.name.written_eq ▸ h.name.label
  values v hv := by
    rw [h.values_eq] at hv
    obtain ⟨a, ha, rfl⟩ := List.mem_map.mp hv
    exact ⟨(h.attributes a ha).name.label, (h.attributes a ha).value⟩
  pieces a ha := (h.attributes a ha).pieces

theorem inner_eq (h : tag.IsPlain) (hs : ∀ declared ∈ scope, declared = []) :
    ∀ declared ∈ tag.declared :: scope, declared = [] :=
  List.forall_mem_cons.mpr ⟨h.declared, hs⟩

theorem isResolved (h : tag.IsPlain) (hs : ∀ declared ∈ scope, declared = []) : tag.IsResolved scope where
  distinct := by
    rw [h.values_eq, List.map_map]
    exact h.distinct
  declared n hn := by
    rw [h.declared] at hn
    cases hn
  undeclared a ha := by
    rw [declare?, if_neg, (h.attributes a ha).name.written_eq, splitName_of_whole (h.attributes a ha).name.whole]
    rw [beq_iff_eq, (h.attributes a ha).name.written_eq]
    exact (h.attributes a ha).free
  attributes a ha := by rw [resolveAttribute_plain (h.attributes a ha).name]
  name := by rw [resolveElement_plain h.name (h.inner_eq hs)]

theorem notices_eq (h : tag.IsPlain) (hs : ∀ declared ∈ scope, declared = []) : tag.notices scope = [] := by
  have hattributes : tag.attributes.flatMap
      (fun a => (resolveAttribute (tag.declared :: scope) a.name.written).2) = [] := by
    rw [List.flatMap_eq_nil_iff]
    exact fun a ha => by rw [resolveAttribute_plain (h.attributes a ha).name]
  have hidentities : tag.attributes.map (·.name.identity) =
      (tag.attributes.map (·.name.label)).map fun label => (none, label) := by
    rw [List.map_map]
    exact List.map_congr_left fun a ha => by rw [Name.identity, (h.attributes a ha).name.space?]; rfl
  have hdistinct : (tag.attributes.map (·.name.identity)).Nodup := by
    rw [hidentities]
    exact List.Pairwise.map _ (fun _ _ hne he => hne (Prod.mk.inj he).2) h.distinct
  rw [Tag.notices, hattributes, resolveElement_plain h.name (h.inner_eq hs), Tag.repetition,
    firstRepeated?_eq_none_iff.mpr hdistinct, h.declared]
  rfl

end Tag.IsPlain

mutual

/-- A plain node can be read again if it is not nested too deeply, and no reader remarks on it. -/
theorem isReadable_of_isPlain {scope : List (List Namespace)} (hs : ∀ declared ∈ scope, declared = []) :
    ∀ n : Node, n.IsPlain → scope.length + n.height ≤ nestingLimit → n.IsReadable scope ∧ n.notices scope = []
  | .element tag content, h, hd => by
    obtain ⟨ht, hc⟩ := isPlain_element_iff.mp h
    rw [Node.height] at hd
    have hinner := areReadable_of_arePlain (ht.inner_eq hs) content hc
      (by rw [List.length_cons]; omega)
    rw [Node.IsReadable, Node.notices, ht.notices_eq hs, hinner.2]
    exact ⟨⟨by omega, ht.isWritable, ht.isResolved hs, hinner.1⟩, rfl⟩
  | .text s, h, _ => by
    rw [Node.IsReadable, Node.notices]
    exact ⟨isPlain_text_iff.mp h, rfl⟩
  | .comment s, h, _ => by
    rw [Node.IsReadable, Node.notices]
    exact ⟨isPlain_comment_iff.mp h, rfl⟩
  | .instruction target data, h, _ => by
    rw [Node.IsReadable, Node.notices]
    exact isPlain_instruction_iff.mp h
  | .reference name, h, _ => (not_isPlain_reference name h).elim

theorem areReadable_of_arePlain {scope : List (List Namespace)} (hs : ∀ declared ∈ scope, declared = []) :
    ∀ content : List Node, (∀ n ∈ content, n.IsPlain) → scope.length + heightOfAll content ≤ nestingLimit →
      AreReadable scope content ∧ noticesOfAll scope content = []
  | [], _, _ => by
    rw [AreReadable, noticesOfAll]
    exact ⟨trivial, rfl⟩
  | n :: content, h, hd => by
    obtain ⟨hn, hc⟩ := List.forall_mem_cons.mp h
    rw [heightOfAll] at hd
    have hfirst := isReadable_of_isPlain hs n hn (by omega)
    have hrest := areReadable_of_arePlain hs content hc (by omega)
    rw [AreReadable, noticesOfAll, hfirst.2, hrest.2]
    exact ⟨⟨hfirst.1, hrest.1⟩, rfl⟩

end

/-! ### Plain nodes are copied as they are -/

theorem Attribute.copied_eq {a : Attribute} (h : a.IsPlain) : a.copied = a := by
  have hpieces : a.copied.pieces = a.pieces := by
    refine (List.map_congr_left fun piece hp => ?_).trans (List.map_id _)
    have := List.all_eq_true.mp h.pieces piece hp
    cases piece with
    | chars s => rfl
    | reference name meaning => cases this
  exact congrArg (Attribute.mk a.name) hpieces

theorem Tag.IsPlain.copied_eq (h : tag.IsPlain) : tag.attributes.map Attribute.copied = tag.attributes :=
  (List.map_congr_left fun a ha => Attribute.copied_eq (h.attributes a ha)).trans (List.map_id _)

theorem Tag.IsPlain.spaces_eq (h : tag.IsPlain) : tag.spaces = [] := by
  rw [Tag.spaces, h.name.space?, List.filterMap_eq_nil_iff.mpr fun a ha => (h.attributes a ha).name.space?]
  rfl

mutual

theorem Node.forgetful_eq : ∀ n : Node, n.IsPlain → n.forgetful = n
  | .element tag content, h => by
    obtain ⟨ht, hc⟩ := isPlain_element_iff.mp h
    rw [Node.forgetful, ht.copied_eq, forgetfulAll_eq content hc]
  | .text _, _ => by rw [Node.forgetful]
  | .comment _, _ => by rw [Node.forgetful]
  | .instruction _ _, _ => by rw [Node.forgetful]
  | .reference _, _ => by rw [Node.forgetful]

theorem forgetfulAll_eq : ∀ content : List Node, (∀ n ∈ content, n.IsPlain) → forgetfulAll content = content
  | [], _ => by rw [forgetfulAll]
  | n :: content, h => by
    obtain ⟨hn, hc⟩ := List.forall_mem_cons.mp h
    rw [forgetfulAll, Node.forgetful_eq n hn, forgetfulAll_eq content hc]

end

mutual

theorem Node.lacking_eq (found : List Namespace) :
    ∀ (n : Node) (bound : List (Option String)), n.IsPlain → n.lacking bound found = found
  | .element tag content, bound, h => by
    obtain ⟨ht, hc⟩ := isPlain_element_iff.mp h
    rw [Node.lacking, ht.spaces_eq]
    exact lackingAll_eq found content _ hc
  | .text _, _, _ => by rw [Node.lacking]; exact fun _ _ h => by cases h
  | .comment _, _, _ => by rw [Node.lacking]; exact fun _ _ h => by cases h
  | .instruction _ _, _, _ => by rw [Node.lacking]; exact fun _ _ h => by cases h
  | .reference _, _, _ => by rw [Node.lacking]; exact fun _ _ h => by cases h

theorem lackingAll_eq (found : List Namespace) :
    ∀ (content : List Node) (bound : List (Option String)), (∀ n ∈ content, n.IsPlain) →
      lackingAll bound found content = found
  | [], _, _ => by rw [lackingAll]
  | n :: content, bound, h => by
    obtain ⟨hn, hc⟩ := List.forall_mem_cons.mp h
    rw [lackingAll, Node.lacking_eq found n bound hn, lackingAll_eq found content bound hc]

end

theorem Node.copied_eq (h : n.IsPlain) : n.copied = n := by
  rw [Node.copied, Node.forgetful_eq n h, Node.lacking_eq [] n [] h]
  cases n with
  | element tag content => exact congrArg (Node.element · content) (by rw [List.append_nil])
  | _ => rfl

theorem Graft.rename_plain {name : Name} (h : name.IsPlain) (g : Graft) (swaps : Swaps) (isAttribute : Bool) :
    g.rename swaps isAttribute name = (name, g) := by
  rw [Graft.rename, h.space?]

theorem Graft.renameAll_plain {attributes : List Attribute} (h : ∀ a ∈ attributes, a.IsPlain) (g : Graft)
    (swaps : Swaps) : g.renameAll swaps attributes = (attributes, g) := by
  induction attributes with
  | nil => rfl
  | cons a attributes ih =>
    obtain ⟨ha, h⟩ := List.forall_mem_cons.mp h
    rw [Graft.renameAll, Graft.rename_plain ha.name]
    dsimp only
    rw [ih h]

mutual

/-- A graft leaves a plain node as it is, and needs no declaration for it. -/
theorem Graft.settle_plain : ∀ (n : Node) (g : Graft) (path : List Tag) (swaps : Swaps), n.IsPlain →
    (g.settle path swaps n).1 = n ∧ (g.settle path swaps n).2.added = g.added
  | .element tag content, g, path, swaps, h => by
    obtain ⟨ht, hc⟩ := isPlain_element_iff.mp h
    rw [Graft.settle, ht.declared, settleDeclared, List.foldl_nil]
    dsimp only
    rw [Graft.rename_plain ht.name, Graft.renameAll_plain ht.attributes]
    dsimp only
    obtain ⟨hcontent, hadded⟩ := Graft.settleAll_plain content _ _ swaps hc
    rw [hcontent, hadded, ← ht.declared]
    refine ⟨rfl, ?_⟩
    split <;> rfl
  | .text _, g, _, _, _ => by rw [Graft.settle]; exact ⟨rfl, rfl⟩
  | .comment _, g, _, _, _ => by rw [Graft.settle]; exact ⟨rfl, rfl⟩
  | .instruction _ _, g, _, _, _ => by rw [Graft.settle]; exact ⟨rfl, rfl⟩
  | .reference _, g, _, _, _ => by rw [Graft.settle]; exact ⟨rfl, rfl⟩

theorem Graft.settleAll_plain : ∀ (content : List Node) (g : Graft) (path : List Tag) (swaps : Swaps),
    (∀ n ∈ content, n.IsPlain) →
      (g.settleAll path swaps content).1 = content ∧ (g.settleAll path swaps content).2.added = g.added
  | [], g, _, _, _ => by rw [Graft.settleAll]; exact ⟨rfl, rfl⟩
  | n :: content, g, path, swaps, h => by
    obtain ⟨hn, hc⟩ := List.forall_mem_cons.mp h
    obtain ⟨hfirst, hadded⟩ := Graft.settle_plain n g path swaps hn
    obtain ⟨hrest, hmore⟩ := Graft.settleAll_plain content (g.settle path swaps n).2 path swaps hc
    rw [Graft.settleAll]
    exact ⟨congrArg₂ List.cons hfirst hrest, hmore.trans hadded⟩

end

theorem Node.grafted_eq (h : n.IsPlain) (around : List Tag) : n.grafted around = n := by
  obtain ⟨hn, hadded⟩ := Graft.settle_plain n ⟨around, none, []⟩ [] [] h
  rw [Node.grafted]
  split
  · rename_i hg
    rw [hg] at hn hadded
    rw [← hn, show _ = [] from hadded, List.append_nil]
  · rename_i hg
    rw [hg] at hn
    exact hn

/-- Plain content is copied as it is. -/
theorem copiedContent_eq (h : ∀ n ∈ content, n.IsPlain) (around : List Tag) :
    copiedContent around content = content := by
  refine (List.map_congr_left fun n hn => ?_).trans (List.map_id _)
  rw [Node.copied_eq (h n hn)]
  exact Node.grafted_eq (h n hn) around

end ReleaseNotes.Markup
