import Mathlib.Tactic.SplitIfs
import ReleaseNotes.Markup.Edit

/-!
# Copies that keep their names

What a copy is to keep of a node are its marks: names with their namespaces, attributes, texts letter by letter,
and where elements begin and end (`Node.marks`). A copy finds the namespace of a name by its prefix. So it keeps
the marks of a node if every name in it is in the namespace that the nearest declaration of its prefix stands for
(`Node.IsScoped`), wherever the copy is put (`marks_copied_grafted`).
-/

namespace ReleaseNotes.Markup

variable {n m : Node} {content more : List Node} {tag : Tag} {g : Graft} {path chain around : List Tag}
variable {swaps : Swaps} {env env' outer declared : List Namespace} {d : Namespace} {short? : Option String}

/-! ### Marks -/

/-- A mark in the content of an element. -/
inductive Mark where
  /-- A letter of a text. -/
  | letter (c : Char)
  /-- The beginning of an element, with its name and its attributes. -/
  | opening (name : Option String × String) (attributes : List ((Option String × String) × List Piece))
  /-- The end of an element. -/
  | closing
  /-- A comment. -/
  | comment (s : String)
  /-- A processing instruction. -/
  | instruction (target data : String)
  /-- A reference to an entity. -/
  | reference (name : String)
  deriving DecidableEq

/-- What an attribute says: its name and its value, with references as they are written. -/
def Attribute.mark (a : Attribute) : (Option String × String) × List Piece :=
  (a.name.identity, a.copied.pieces)

/-- The mark of the beginning of an element. -/
def Tag.mark (t : Tag) : Mark :=
  .opening t.name.identity (t.attributes.map Attribute.mark)

mutual

/-- The marks of a node. -/
def Node.marks : Node → List Mark
  | .element tag content => tag.mark :: (marksOf content ++ [.closing])
  | .text s => s.toList.map .letter
  | .comment s => [.comment s]
  | .instruction target data => [.instruction target data]
  | .reference name => [.reference name]

/-- The marks of some content. Where one run of text ends and the next begins makes no mark, and an empty run
makes none at all. -/
def marksOf : List Node → List Mark
  | [] => []
  | n :: rest => n.marks ++ marksOf rest

end

theorem marksOf_append (content more : List Node) : marksOf (content ++ more) = marksOf content ++ marksOf more := by
  induction content with
  | nil => rfl
  | cons n content ih => rw [List.cons_append, marksOf, marksOf, ih, List.append_assoc]

theorem marksOf_singleton (n : Node) : marksOf [n] = n.marks := by
  rw [marksOf, marksOf, List.append_nil]

theorem marksOf_appendText (content : List Node) (s : String) :
    marksOf (appendText content s) = marksOf content ++ s.toList.map .letter := by
  have htext (t : String) : marksOf [.text t] = t.toList.map .letter := by rw [marksOf_singleton, Node.marks]
  unfold appendText
  split
  · next hs =>
    rw [String.isEmpty_iff.mp hs]
    exact (List.append_nil _).symm
  · split
    · next t ht =>
      obtain ⟨before, rfl⟩ := List.getLast?_eq_some_iff.mp ht
      rw [List.dropLast_concat, marksOf_append, marksOf_append, htext, htext, String.toList_append, List.map_append,
        List.append_assoc]
    · rw [marksOf_append, htext]

/-- Content put after other content leaves the marks of both. -/
theorem marksOf_appendContent (content more : List Node) :
    marksOf (appendContent content more) = marksOf content ++ marksOf more := by
  unfold appendContent
  split
  · next s more => rw [marksOf_append, marksOf_appendText, marksOf, Node.marks, List.append_assoc]
  · exact marksOf_append content _

/-! ### Scopes -/

/-- The declaration of a prefix that holds among some declarations, nearest first. -/
def holding? (declared : List Namespace) (short? : Option String) : Option Namespace :=
  if short? = some "xml" then some xmlNamespace else declared.find? (·.short? == short?)

/-- The prefix of a namespace stands for it where some declarations hold. -/
def Namespace.HoldsIn (n : Namespace) (declared : List Namespace) : Prop :=
  (holding? declared n.short?).map Namespace.uri = some n.uri

/-- The names of a tag are in the namespaces that their prefixes stand for, inside of some declarations. -/
structure Tag.IsScoped (outer : List Namespace) (t : Tag) : Prop where
  /-- No prefix is declared twice. -/
  distinct : (t.declared.map Namespace.short?).Nodup
  /-- The prefix that needs no declaration has none. -/
  free : some "xml" ∉ t.declared.map Namespace.short?
  /-- The prefix of every name stands for its namespace. -/
  spaces : ∀ n ∈ t.spaces, n.HoldsIn (t.declared ++ outer)

mutual

/-- All names in a node are in the namespaces that their prefixes stand for, inside of some declarations. -/
def Node.IsScoped (outer : List Namespace) : Node → Prop
  | .element tag content => tag.IsScoped outer ∧ AreScoped (tag.declared ++ outer) content
  | _ => True

/-- All names in some content are in the namespaces that their prefixes stand for. -/
def AreScoped (outer : List Namespace) : List Node → Prop
  | [] => True
  | n :: rest => n.IsScoped outer ∧ AreScoped outer rest

end

theorem areScoped_iff : AreScoped outer content ↔ ∀ n ∈ content, n.IsScoped outer := by
  induction content with
  | nil => simp [AreScoped]
  | cons n content ih => rw [AreScoped, List.forall_mem_cons, ih]

theorem holding?_append_of_not_mem (h : short? ∉ declared.map Namespace.short?) :
    holding? (declared ++ env) short? = holding? env short? := by
  have hnone : declared.find? (·.short? == short?) = none := by
    rw [List.find?_eq_none]
    rintro n hn he
    exact h (List.mem_map.mpr ⟨n, hn, eq_of_beq he⟩)
  rw [holding?, holding?, List.find?_append, hnone, Option.none_or]

/-- A declaration holds where it stands. -/
theorem holdsIn_of_mem (hd : (declared.map Namespace.short?).Nodup) (hx : some "xml" ∉ declared.map Namespace.short?)
    (h : d ∈ declared) : d.HoldsIn (declared ++ env) := by
  have hshort : d.short? ≠ some "xml" := fun he => hx (he ▸ List.mem_map_of_mem h)
  have hfind : declared.find? (·.short? == d.short?) = some d := by
    clear hx hshort
    induction declared with
    | nil => cases h
    | cons e declared ih =>
      rw [List.map_cons, List.nodup_cons] at hd
      rw [List.find?_cons]
      rcases List.mem_cons.mp h with rfl | h
      · rw [beq_self_eq_true]
      · have hne : (e.short? == d.short?) = false := by
          rw [beq_eq_false_iff_ne]
          exact fun he => hd.1 (he ▸ List.mem_map_of_mem h)
        rw [hne]
        exact ih hd.2 h
  rw [Namespace.HoldsIn, holding?, if_neg hshort, List.find?_append, hfind]
  rfl

/-! ### Forgetful copies -/

theorem Attribute.copied_copied (a : Attribute) : a.copied.copied = a.copied := by
  rw [Attribute.copied, Attribute.copied, List.map_map]
  refine congrArg (Attribute.mk a.name) (List.map_congr_left fun piece _ => ?_)
  cases piece <;> rfl

theorem spaces_copied (tag : Tag) (declared : List Namespace) :
    Tag.spaces ⟨tag.name, declared, tag.attributes.map Attribute.copied⟩ = tag.spaces := by
  rw [Tag.spaces, Tag.spaces, List.filterMap_map]
  rfl

theorem mark_copied (tag : Tag) (declared : List Namespace) :
    Tag.mark ⟨tag.name, declared, tag.attributes.map Attribute.copied⟩ = tag.mark := by
  rw [Tag.mark, Tag.mark, List.map_map]
  refine congrArg (Mark.opening tag.name.identity) (List.map_congr_left fun a _ => ?_)
  rw [Function.comp_apply, Attribute.mark, Attribute.mark, Attribute.copied_copied]
  rfl

mutual

theorem marks_forgetful : ∀ n : Node, n.forgetful.marks = n.marks
  | .element tag content => by
    rw [Node.forgetful, Node.marks, Node.marks, mark_copied, marksOf_forgetfulAll content]
  | .text _ | .comment _ | .instruction _ _ | .reference _ => rfl

theorem marksOf_forgetfulAll : ∀ content : List Node, marksOf (forgetfulAll content) = marksOf content
  | [] => rfl
  | n :: content => by rw [forgetfulAll, marksOf, marksOf, marks_forgetful n, marksOf_forgetfulAll content]

end

mutual

theorem isScoped_forgetful : ∀ (n : Node) {outer : List Namespace}, n.IsScoped outer → n.forgetful.IsScoped outer
  | .element tag content, outer, h => by
    rw [Node.IsScoped] at h
    rw [Node.forgetful, Node.IsScoped]
    exact ⟨⟨h.1.distinct, h.1.free, (spaces_copied tag tag.declared).symm ▸ h.1.spaces⟩,
      areScoped_forgetfulAll content h.2⟩
  | .text _, _, _ | .comment _, _, _ | .instruction _ _, _, _ | .reference _, _, _ => trivial

theorem areScoped_forgetfulAll : ∀ (content : List Node) {outer : List Namespace}, AreScoped outer content →
    AreScoped outer (forgetfulAll content)
  | [], _, _ => trivial
  | n :: content, _, h => by
    rw [AreScoped] at h
    rw [forgetfulAll, AreScoped]
    exact ⟨isScoped_forgetful n h.1, areScoped_forgetfulAll content h.2⟩

end

/-! ### What a copy lacks -/

theorem mem_addLacking {bound : List (Option String)} {found used : List Namespace}
    (h : d ∈ addLacking bound found used) : d ∈ found ∨ d ∈ used ∧ d.short? ∉ bound := by
  induction used generalizing found with
  | nil => exact .inl h
  | cons n used ih =>
    rw [addLacking, List.foldl_cons] at h
    rcases ih h with hf | ⟨hu, hb⟩
    · split_ifs at hf with hn
      · exact .inl hf
      · rcases List.mem_append.mp hf with hf | hf
        · exact .inl hf
        · rw [List.mem_singleton] at hf
          subst hf
          refine .inr ⟨.head _, fun hb => hn ?_⟩
          simp [hb]
    · exact .inr ⟨.tail _ hu, hb⟩

mutual

/-- What a node lacks holds where the declarations around it do. `env` holds inside of the elements whose
prefixes are `bound`, and `outer` around them. -/
theorem holdsIn_of_lacking : ∀ (n : Node) {env : List Namespace} {bound : List (Option String)}
    {found : List Namespace}, n.IsScoped env → (∀ short? ∉ bound, holding? env short? = holding? outer short?) →
    (∀ d ∈ found, d.HoldsIn outer) → ∀ d ∈ n.lacking bound found, d.HoldsIn outer
  | .element tag content, env, bound, found, h, hb, hf => by
    rw [Node.IsScoped] at h
    have hb' : ∀ short? ∉ tag.declared.map Namespace.short? ++ bound,
        holding? (tag.declared ++ env) short? = holding? outer short? := by
      intro short? hs
      rw [List.mem_append, not_or] at hs
      rw [holding?_append_of_not_mem hs.1, hb short? hs.2]
    rw [Node.lacking]
    refine holdsIn_of_lackingAll content h.2 hb' fun d hd => ?_
    rcases mem_addLacking hd with hd | ⟨hd, hs⟩
    · exact hf d hd
    · have hholds := h.1.spaces d hd
      rwa [Namespace.HoldsIn, hb' _ hs] at hholds
  | .text _, _, _, _, _, _, hf | .comment _, _, _, _, _, _, hf | .instruction _ _, _, _, _, _, _, hf
  | .reference _, _, _, _, _, _, hf => hf

theorem holdsIn_of_lackingAll : ∀ (content : List Node) {env : List Namespace} {bound : List (Option String)}
    {found : List Namespace}, AreScoped env content →
    (∀ short? ∉ bound, holding? env short? = holding? outer short?) → (∀ d ∈ found, d.HoldsIn outer) →
    ∀ d ∈ lackingAll bound found content, d.HoldsIn outer
  | [], _, _, _, _, _, hf => hf
  | n :: content, _, _, _, h, hb, hf => by
    rw [AreScoped] at h
    rw [lackingAll]
    exact holdsIn_of_lackingAll content h.2 hb (holdsIn_of_lacking n h.1 hb hf)

end

/-! ### Grafts -/

/-- A declaration that is found is one of the namespace that is looked for. -/
theorem uri_of_declaring? {named : Bool} {uri : String} {hidden : List (Option String)}
    (h : declaring? named uri hidden chain = some d) : d.uri = uri := by
  induction chain generalizing hidden with
  | nil =>
    rw [declaring?] at h
    split_ifs at h with hu
    cases h
    exact (eq_of_beq hu).symm
  | cons t chain ih =>
    rw [declaring?] at h
    split at h
    · next n hn =>
      cases h
      have := List.find?_some hn
      simp only [Bool.and_eq_true, beq_iff_eq] at this
      exact this.1.1
    · exact ih h

theorem uri_declare (g : Graft) (named : Bool) (n : Namespace) : (g.declare named n).1.uri = n.uri := by
  rw [Graft.declare]
  split
  · next found hf => exact uri_of_declaring? hf
  · rfl

/-- What stands in for the declarations of a graft stands for the same namespaces, and a prefix for which
something stands in stands for that namespace. -/
structure Fits (swaps : Swaps) (env : List Namespace) : Prop where
  uri_eq : ∀ s ∈ swaps, s.2.uri = s.1.uri
  holds {short? : Option String} {s : Namespace × Namespace} :
    swaps.find? (·.1.short? == short?) = some s → (holding? env short?).map Namespace.uri = some s.1.uri

theorem fits_nil (env : List Namespace) : Fits [] env :=
  ⟨nofun, nofun⟩

/-- What stands in for more declarations that hold, if all others hold as before. -/
theorem Fits.push (h : Fits swaps env) {found : Namespace → Namespace} (hf : ∀ d, (found d).uri = d.uri)
    (hd : ∀ d ∈ declared, d.HoldsIn env')
    (ho : ∀ short? ∉ declared.map Namespace.short?, holding? env' short? = holding? env short?) :
    Fits ((declared.map fun d => (d, found d)).reverse ++ swaps) env' where
  uri_eq s hs := by
    rcases List.mem_append.mp hs with hs | hs
    · obtain ⟨d, -, rfl⟩ := List.mem_map.mp (List.mem_reverse.mp hs)
      exact hf d
    · exact h.uri_eq s hs
  holds {short? s} hs := by
    rw [List.find?_append, Option.or_eq_some_iff] at hs
    rcases hs with hs | ⟨hn, hs⟩
    · obtain ⟨d, hmem, rfl⟩ := List.mem_map.mp (List.mem_reverse.mp (List.mem_of_find?_eq_some hs))
      have hshort : d.short? = short? := by simpa using List.find?_some hs
      rw [← hshort]
      exact hd d hmem
    · have hnot : short? ∉ declared.map Namespace.short? := by
        intro hmem
        obtain ⟨d, hd, rfl⟩ := List.mem_map.mp hmem
        have := List.find?_eq_none.mp hn (d, found d) (List.mem_reverse.mpr (List.mem_map_of_mem hd))
        simp at this
      rw [ho short? hnot]
      exact h.holds hs

theorem settleDeclared_snd (chain : List Tag) (swaps : Swaps) (declared : List Namespace) :
    (settleDeclared chain swaps declared).2 =
      (declared.map fun d => (d, (declaring? false d.uri [] chain).getD d)).reverse ++ swaps := by
  change (List.foldl _ _ declared : List Namespace × Swaps).2 = _ ++ (([] : List Namespace), swaps).2
  generalize (([] : List Namespace), swaps) = start
  induction declared generalizing start with
  | nil => rfl
  | cons d declared ih =>
    rw [List.foldl_cons, ih, List.map_cons, List.reverse_cons, List.append_assoc]
    dsimp only
    cases declaring? false d.uri [] chain with
    | some found => rfl
    | none => rfl

theorem uri_getD_declaring? (chain : List Tag) (d : Namespace) :
    ((declaring? false d.uri [] chain).getD d).uri = d.uri := by
  cases h : declaring? false d.uri [] chain with
  | none => rfl
  | some found => exact uri_of_declaring? h

/-- A name that is in the namespace its prefix stands for stays in it. -/
theorem identity_rename (h : Fits swaps env) (g : Graft) (isAttribute : Bool) (name : Name)
    (hn : ∀ n, name.space? = some n → n.HoldsIn env) :
    (g.rename swaps isAttribute name).1.identity = name.identity := by
  rw [Graft.rename]
  cases hs : name.space? with
  | none => rfl
  | some n =>
    have hidentity (found : Namespace) (hu : found.uri = n.uri) :
        (Name.mk (some found) name.label).identity = name.identity := by
      rw [Name.identity, Name.identity, hs, Option.map_some, Option.map_some, hu]
    dsimp only
    split
    · next d found hf =>
      have huri : found.uri = n.uri := by
        have hd := h.holds hf
        have hnd := hn n hs
        rw [Namespace.HoldsIn, hd, Option.some.injEq] at hnd
        rw [← hnd]
        exact h.uri_eq _ (List.mem_of_find?_eq_some hf)
      split
      · exact hidentity _ (uri_declare g true n)
      · exact hidentity found huri
    · exact hidentity _ (uri_declare g _ n)

theorem map_mark_renameAll (h : Fits swaps env) (g : Graft) (attributes : List Attribute)
    (hn : ∀ a ∈ attributes, ∀ n, a.name.space? = some n → n.HoldsIn env) :
    (g.renameAll swaps attributes).1.map Attribute.mark = attributes.map Attribute.mark := by
  induction attributes generalizing g with
  | nil => rfl
  | cons a attributes ih =>
    obtain ⟨ha, hn⟩ := List.forall_mem_cons.mp hn
    rw [Graft.renameAll, List.map_cons, List.map_cons, ih _ hn]
    refine congrArg (· :: _) ?_
    rw [Attribute.mark, Attribute.mark, identity_rename h g true a.name ha]
    rfl

/-- An element keeps its marks in a graft if its content does. -/
theorem marks_settle_element (hfits : Fits (settleDeclared (path ++ g.fromTop) swaps tag.declared).2 env)
    (hs : ∀ n ∈ tag.spaces, n.HoldsIn env)
    (hc : ∀ (g : Graft) (path : List Tag) (swaps : Swaps), Fits swaps env →
      marksOf (g.settleAll path swaps content).1 = marksOf content) :
    (g.settle path swaps (.element tag content)).1.marks = (Node.element tag content).marks := by
  have hname : ∀ n, tag.name.space? = some n → n.HoldsIn env := fun n hn =>
    hs n (List.mem_append_left _ (by rw [hn]; exact .head _))
  have hattributes : ∀ a ∈ tag.attributes, ∀ n, a.name.space? = some n → n.HoldsIn env := fun a ha n hn =>
    hs n (List.mem_append_right _ (List.mem_filterMap.mpr ⟨a, ha, hn⟩))
  rw [Graft.settle]
  dsimp only
  rw [Node.marks, Node.marks, hc _ _ _ hfits, Tag.mark, Tag.mark]
  dsimp only
  rw [identity_rename hfits _ false tag.name hname, map_mark_renameAll hfits _ _ hattributes]

mutual

/-- Whatever stands below the top of a graft keeps its marks. -/
theorem marks_settle : ∀ (n : Node) {env : List Namespace}, n.IsScoped env → ∀ (g : Graft) (path : List Tag)
    (swaps : Swaps), Fits swaps env → (g.settle path swaps n).1.marks = n.marks
  | .element tag content, env, h, g, path, swaps, hf => by
    rw [Node.IsScoped] at h
    have hfits : Fits (settleDeclared (path ++ g.fromTop) swaps tag.declared).2 (tag.declared ++ env) := by
      rw [settleDeclared_snd]
      exact hf.push (uri_getD_declaring? _) (fun d hd => holdsIn_of_mem h.1.distinct h.1.free hd)
        fun short? hs => holding?_append_of_not_mem hs
    exact marks_settle_element hfits h.1.spaces fun g path swaps hf => marksOf_settleAll content h.2 g path swaps hf
  | .text _, _, _, _, _, _, _ | .comment _, _, _, _, _, _, _ | .instruction _ _, _, _, _, _, _, _
  | .reference _, _, _, _, _, _, _ => rfl

theorem marksOf_settleAll : ∀ (content : List Node) {env : List Namespace}, AreScoped env content →
    ∀ (g : Graft) (path : List Tag) (swaps : Swaps), Fits swaps env →
    marksOf (g.settleAll path swaps content).1 = marksOf content
  | [], _, _, _, _, _, _ => rfl
  | n :: content, _, h, g, path, swaps, hf => by
    rw [AreScoped] at h
    rw [Graft.settleAll, marksOf, marksOf, marks_settle n h.1 g path swaps hf,
      marksOf_settleAll content h.2 _ path swaps hf]

end

/-- **A copy keeps the marks of a node** whose names are in the namespaces that their prefixes stand for,
wherever it is put. -/
theorem marks_copied_grafted (h : n.IsScoped outer) (around : List Tag) :
    (n.copied.grafted around).marks = n.marks := by
  cases n with
  | element tag content =>
    rw [Node.IsScoped] at h
    obtain ⟨htag, hcontent⟩ := h
    -- What the copy declares besides holds below the tag already, so it hides nothing.
    have hlack : ∀ d ∈ (Node.element tag content).lacking [] [], d.HoldsIn (tag.declared ++ outer) := by
      rw [Node.lacking]
      refine holdsIn_of_lackingAll content hcontent (fun _ _ => rfl) fun d hd => ?_
      rcases mem_addLacking hd with hd | ⟨hd, -⟩
      · cases hd
      · exact htag.spaces d hd
    have hfits (chain : List Tag) :
        Fits (settleDeclared chain [] (tag.declared ++ (Node.element tag content).lacking [] [])).2
          (tag.declared ++ outer) := by
      rw [settleDeclared_snd]
      refine (fits_nil (tag.declared ++ outer)).push (uri_getD_declaring? _) (fun d hd => ?_) fun _ _ => rfl
      rcases List.mem_append.mp hd with hd | hd
      · exact holdsIn_of_mem htag.distinct htag.free hd
      · exact hlack d hd
    have hgrafted (tag : Tag) (content : List Node) : (Node.grafted around (.element tag content)).marks =
        (Graft.settle ⟨around, none, []⟩ [] [] (.element tag content)).1.marks := by
      rw [Node.grafted, Graft.settle]
      rfl
    rw [Node.copied, Node.forgetful]
    dsimp only
    rw [hgrafted, marks_settle_element (hfits _) ((spaces_copied tag _).symm ▸ htag.spaces) fun g path swaps hf =>
      marksOf_settleAll _ (areScoped_forgetfulAll content hcontent) g path swaps hf]
    rw [Node.marks, Node.marks, mark_copied, marksOf_forgetfulAll]
  | _ => rfl

end ReleaseNotes.Markup
