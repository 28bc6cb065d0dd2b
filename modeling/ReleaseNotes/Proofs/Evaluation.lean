import ReleaseNotes.Proofs.Lacking
import ReleaseNotes.Template.Render

/-!
# What expressions lack

An expression may come to something that is absent although each of its names has a value: if it looks something up
in a value, if it takes the first or the last item of one, or if a value that is fixed in it is absent, as that of
a choice without an alternative is (`Expr.MayLack`). Nothing else in it is missing (`yields_value`).
-/

namespace ReleaseNotes.Template

variable {P : String → Prop} {frames : List Frame} {reason : String}

/-- A value lacks something for a reason. -/
def Value.Lacks (reason : String) (v : Value) : Prop :=
  ¬ v.LacksOnly (· ≠ reason)

mutual

theorem lacksOnly_of_lacks : ∀ v : Value, (∀ reason, v.Lacks reason → P reason) → v.LacksOnly P
  | .list items, h => lacksOnly_list.mpr (eachLacksOnly_of_lacks items fun v hv reason hr =>
      h reason fun hl => hr (lacksOnly_list.mp hl v hv))
  | .tuple items, h => lacksOnly_tuple.mpr (eachLacksOnly_of_lacks items fun v hv reason hr =>
      h reason fun hl => hr (lacksOnly_tuple.mp hl v hv))
  | .pass items, h => lacksOnly_pass.mpr (eachLacksOnly_of_lacks items fun v hv reason hr =>
      h reason fun hl => hr (lacksOnly_pass.mp hl v hv))
  | .turn _ items, h => lacksOnly_turn.mpr (eachLacksOnly_of_lacks items fun v hv reason hr =>
      h reason fun hl => hr (lacksOnly_turn.mp hl v hv))
  | .table keys values, h => lacksOnly_table.mpr
      ⟨eachLacksOnly_of_lacks keys fun v hv reason hr => h reason fun hl => hr ((lacksOnly_table.mp hl).1 v hv),
        eachLacksOnly_of_lacks values fun v hv reason hr => h reason fun hl => hr ((lacksOnly_table.mp hl).2 v hv)⟩
  | .absent _ reason, h => h reason fun hl => hl rfl
  | .nothing, _ | .bool _, _ | .int _, _ | .float _, _ | .text _ _, _ | .range _ _ _, _ | .function _, _ => trivial

theorem eachLacksOnly_of_lacks : ∀ items : List Value, (∀ v ∈ items, ∀ reason, v.Lacks reason → P reason) →
    EachLacksOnly P items
  | [], _ => List.forall_mem_nil _
  | v :: items, h => by
    obtain ⟨hv, h⟩ := List.forall_mem_cons.mp h
    exact List.forall_mem_cons.mpr ⟨lacksOnly_of_lacks v hv, eachLacksOnly_of_lacks items h⟩

end

mutual

/-- An expression whose names all have values may come to something that is absent for a reason. -/
def Expr.MayLack (reason : String) : Expr → Prop
  | .constant v => v.Lacks reason
  | .name _ => False
  | .list items => someMayLack reason items
  | .tuple items => someMayLack reason items
  | .table keys values => someMayLack reason keys ∨ someMayLack reason values
  | .attribute whole name => whole.MayLack reason ∨ ∃ v : Value, noAttribute v name = .absent true reason
  | .item whole key => whole.MayLack reason ∨ key.MayLack reason ∨ IsLookup reason
  | .slice whole start stop step =>
    whole.MayLack reason ∨ start.MayLack reason ∨ stop.MayLack reason ∨ step.MayLack reason
  | .unary _ e => e.MayLack reason
  | .binary _ left right => left.MayLack reason ∨ right.MayLack reason
  | .joined items => someMayLack reason items
  | .both left right => left.MayLack reason ∨ right.MayLack reason
  | .either left right => left.MayLack reason ∨ right.MayLack reason
  | .negation e => e.MayLack reason
  | .comparison first _ rest => first.MayLack reason ∨ someMayLack reason rest
  | .choice value test otherwise => value.MayLack reason ∨ test.MayLack reason ∨ otherwise.MayLack reason
  | .filter e name arguments names =>
    e.MayLack reason ∨ someMayLack reason arguments ∨ LackedByFilter name arguments.length names reason
  | .test e _ arguments _ => e.MayLack reason ∨ someMayLack reason arguments
  | .call function arguments _ => function.MayLack reason ∨ someMayLack reason arguments

/-- Some of a list of expressions may come to something that is absent for a reason. -/
def someMayLack (reason : String) : List Expr → Prop
  | [] => False
  | e :: rest => e.MayLack reason ∨ someMayLack reason rest

end

/-- The names of an expression have values, and what else it may lack it lacks for one of some reasons. -/
structure Expr.IsCovered (P : String → Prop) (frames : List Frame) (e : Expr) : Prop where
  names (n : String) (h : n ∈ e.names) : (valueIn frames n).LacksOnly P
  lacks (reason : String) (h : e.MayLack reason) : P reason

/-- The names of some expressions have values, and what else they may lack they lack for one of some reasons. -/
structure AreCovered (P : String → Prop) (frames : List Frame) (es : List Expr) : Prop where
  names (n : String) (h : n ∈ namesOfAll es) : (valueIn frames n).LacksOnly P
  lacks (reason : String) (h : someMayLack reason es) : P reason

/-- A part of an expression, whose names are names of the expression and whose lookups are lookups in it. -/
theorem Expr.IsCovered.part {e part : Expr} (h : e.IsCovered P frames)
    (hn : ∀ n ∈ part.names, n ∈ e.names := by simp +contextual [Expr.names])
    (hl : ∀ reason, part.MayLack reason → e.MayLack reason := by simp +contextual [Expr.MayLack]) :
    part.IsCovered P frames :=
  ⟨fun n hm => h.names n (hn n hm), fun reason hr => h.lacks reason (hl reason hr)⟩

/-- Several parts of an expression. -/
theorem Expr.IsCovered.parts {e : Expr} {parts : List Expr} (h : e.IsCovered P frames)
    (hn : ∀ n ∈ namesOfAll parts, n ∈ e.names := by simp +contextual [Expr.names])
    (hl : ∀ reason, someMayLack reason parts → e.MayLack reason := by simp +contextual [Expr.MayLack]) :
    AreCovered P frames parts :=
  ⟨fun n hm => h.names n (hn n hm), fun reason hr => h.lacks reason (hl reason hr)⟩

theorem AreCovered.head {e : Expr} {es : List Expr} (h : AreCovered P frames (e :: es)) : e.IsCovered P frames :=
  ⟨fun n hn => h.names n (List.mem_append_left _ hn), fun reason hr => h.lacks reason (.inl hr)⟩

theorem AreCovered.tail {e : Expr} {es : List Expr} (h : AreCovered P frames (e :: es)) : AreCovered P frames es :=
  ⟨fun n hn => h.names n (List.mem_append_right _ hn), fun reason hr => h.lacks reason (.inr hr)⟩

mutual

/-- Nothing is missing in the value of an expression but what its names and its lookups lack. -/
theorem yields_value : ∀ e : Expr, e.IsCovered P frames → Yields P (Value.LacksOnly P) (e.value frames)
  | .constant v, h => yields_ok (lacksOnly_of_lacks v h.lacks)
  | .name n, h => yields_ok (h.names n (.head _))
  | .list items, h => (yields_valuesOfAll items h.parts).map fun _ h => lacksOnly_list.mpr h.1
  | .tuple items, h => (yields_valuesOfAll items h.parts).map fun _ h => lacksOnly_tuple.mpr h.1
  | .table keys values, h => by
    rw [Expr.value]
    refine (yields_valuesOfAll keys h.parts).bind fun _ hk => ?_
    refine (yields_valuesOfAll values h.parts).bind fun _ hv => ?_
    exact yields_tableOf hk.1 hv.1
  | .attribute whole name, h => by
    rw [Expr.value]
    refine (yields_value whole h.part).bind fun v hv => ?_
    refine yields_item hv trivial ?_
    exact h.lacks _ (.inr ⟨v, rfl⟩)
  | .item whole key, h => by
    rw [Expr.value]
    refine (yields_value whole h.part).bind fun v hv => ?_
    refine (yields_value key h.part).bind fun k hk => ?_
    exact yields_item hv hk (lacksOnly_noElement (fun reason hr => h.lacks reason (.inr (.inr hr))) v k)
  | .slice whole start stop step, h => by
    rw [Expr.value]
    refine (yields_value whole h.part).bind fun v hv => ?_
    refine (yields_value start h.part).bind fun start _ => ?_
    refine (yields_value stop h.part).bind fun stop _ => ?_
    refine (yields_value step h.part).bind fun step _ => ?_
    exact yields_slice hv start stop step
  | .unary op e, h => (yields_value e h.part).bind fun _ hv => yields_unary op hv
  | .binary op left right, h => by
    rw [Expr.value]
    refine (yields_value left h.part).bind fun v hv => ?_
    refine (yields_value right h.part).bind fun w hw => ?_
    exact yields_binary op hv hw
  | .joined items, h => (yields_valuesOfAll items h.parts).bind fun _ h => yields_joinAll h.1
  | .both left right, h => by
    rw [Expr.value]
    refine (yields_value left h.part).bind fun v hv => ?_
    refine (yields_isTrue hv).bind fun isTrue _ => ?_
    split
    · exact yields_value right h.part
    · exact yields_ok hv
  | .either left right, h => by
    rw [Expr.value]
    refine (yields_value left h.part).bind fun v hv => ?_
    refine (yields_isTrue hv).bind fun isTrue _ => ?_
    split
    · exact yields_ok hv
    · exact yields_value right h.part
  | .negation e, h => by
    rw [Expr.value]
    refine (yields_value e h.part).bind fun v hv => ?_
    exact (yields_isTrue hv).bind fun _ _ => yields_ok trivial
  | .comparison first ops rest, h => by
    rw [Expr.value]
    refine (yields_value first h.part).bind fun v hv => ?_
    exact (yields_compareChain rest v ops h.parts hv).map fun _ _ => trivial
  | .choice value test otherwise, h => by
    rw [Expr.value]
    refine (yields_value test h.part).bind fun tested ht => ?_
    refine (yields_isTrue ht).bind fun isTrue _ => ?_
    split
    · exact yields_value value h.part
    · exact yields_value otherwise h.part
  | .filter e name arguments names, h => by
    rw [Expr.value]
    refine (yields_value e h.part).bind fun v hv => ?_
    refine (yields_valuesOfAll arguments h.parts).bind fun given hg => ?_
    refine yields_applyFilter hv hg.1 fun reason hr => h.lacks reason (.inr (.inr ?_))
    rwa [← hg.2]
  | .test e name arguments names, h => by
    rw [Expr.value]
    refine (yields_value e h.part).bind fun v hv => ?_
    refine (yields_valuesOfAll arguments h.parts).bind fun given hg => ?_
    exact yields_passesTest.map fun _ _ => trivial
  | .call function arguments names, h => by
    rw [Expr.value]
    refine (yields_value function h.part).bind fun v hv => ?_
    refine (yields_valuesOfAll arguments h.parts).bind fun given hg => ?_
    exact yields_applyValue hv (Arguments.lackOnly_ofList hg.1)

theorem yields_valuesOfAll : ∀ es : List Expr, AreCovered P frames es →
    Yields P (fun values => EachLacksOnly P values ∧ values.length = es.length) (valuesOfAll frames es)
  | [], _ => yields_ok ⟨List.forall_mem_nil _, rfl⟩
  | e :: es, h => by
    rw [valuesOfAll]
    refine (yields_value e h.head).bind fun v hv => (yields_valuesOfAll es h.tail).bind fun values hvalues => ?_
    refine yields_ok ⟨List.forall_mem_cons.mpr ⟨hv, hvalues.1⟩, ?_⟩
    rw [List.length_cons, List.length_cons, hvalues.2]

theorem yields_compareChain : ∀ (es : List Expr) (v : Value) (ops : List Comparison), AreCovered P frames es →
    v.LacksOnly P → Yields P (fun _ => True) (compareChain frames v ops es)
  | [], _, [], _, _ | [], _, _ :: _, _, _ | _ :: _, _, [], _, _ => by
    rw [compareChain.eq_def]
    exact yields_ok trivial
  | e :: es, v, op :: ops, h, hv => by
    rw [compareChain]
    refine (yields_value e h.head).bind fun w hw => (yields_comparison op hv hw).bind fun holds _ => ?_
    split
    · exact yields_compareChain es w ops h.tail hw
    · exact yields_ok trivial

end

end ReleaseNotes.Template
