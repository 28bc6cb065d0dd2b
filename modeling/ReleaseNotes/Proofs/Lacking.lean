import ReleaseNotes.Template.Filter

/-!
# What values lack

A value that is not there is absent for a reason, and so are values inside of lists and tables. `Value.LacksOnly`
says that every such reason in a value is one of some. Whatever is done with such values comes to such values
again, or fails for one of those reasons or because of what was done (`Yields`). The lookup of an attribute or an
item, the first and the last item of a value, and the filters that look items up (`LackedByFilter`) may come to
values that are absent for a reason of their own.
-/

namespace ReleaseNotes.Template

variable {α β : Type} {P R : String → Prop} {Q Q' : α → Prop} {v w : Value} {items : List Value}

/-! ### Values -/

mutual

/-- Everything that is missing in a value is missing for one of some reasons. -/
def Value.LacksOnly (P : String → Prop) : Value → Prop
  | .list items => AllLackOnly P items
  | .tuple items => AllLackOnly P items
  | .table keys values => AllLackOnly P keys ∧ AllLackOnly P values
  | .pass items => AllLackOnly P items
  | .turn _ items => AllLackOnly P items
  | .absent _ reason => P reason
  | _ => True

/-- Everything that is missing in some values is missing for one of some reasons. -/
def AllLackOnly (P : String → Prop) : List Value → Prop
  | [] => True
  | v :: rest => v.LacksOnly P ∧ AllLackOnly P rest

end

theorem allLackOnly_iff : AllLackOnly P items ↔ ∀ v ∈ items, v.LacksOnly P := by
  induction items with
  | nil => simp [AllLackOnly]
  | cons v items ih => rw [AllLackOnly, List.forall_mem_cons, ih]

section

variable {keys values : List Value} {reason name s : String} {b : Bool} {n start stop step : Int} {x : Float}
  {i : Nat}

@[simp, grind =] theorem lacksOnly_nothing : Value.nothing.LacksOnly P ↔ True := .rfl

@[simp, grind =] theorem lacksOnly_bool : (Value.bool b).LacksOnly P ↔ True := .rfl

@[simp, grind =] theorem lacksOnly_int : (Value.int n).LacksOnly P ↔ True := .rfl

@[simp, grind =] theorem lacksOnly_float : (Value.float x).LacksOnly P ↔ True := .rfl

@[simp, grind =] theorem lacksOnly_text : (Value.text s b).LacksOnly P ↔ True := .rfl

@[simp, grind =] theorem lacksOnly_plain : (Value.plain s).LacksOnly P ↔ True := .rfl

@[simp, grind =] theorem lacksOnly_range : (Value.range start stop step).LacksOnly P ↔ True := .rfl

@[simp, grind =] theorem lacksOnly_function : (Value.function name).LacksOnly P ↔ True := .rfl

@[simp, grind =] theorem lacksOnly_absent : (Value.absent b reason).LacksOnly P ↔ P reason := .rfl

@[simp, grind =]
theorem lacksOnly_list : (Value.list items).LacksOnly P ↔ ∀ v ∈ items, v.LacksOnly P := by
  rw [Value.LacksOnly, allLackOnly_iff]

@[simp, grind =]
theorem lacksOnly_tuple : (Value.tuple items).LacksOnly P ↔ ∀ v ∈ items, v.LacksOnly P := by
  rw [Value.LacksOnly, allLackOnly_iff]

@[simp, grind =]
theorem lacksOnly_pass : (Value.pass items).LacksOnly P ↔ ∀ v ∈ items, v.LacksOnly P := by
  rw [Value.LacksOnly, allLackOnly_iff]

@[simp, grind =]
theorem lacksOnly_turn : (Value.turn i items).LacksOnly P ↔ ∀ v ∈ items, v.LacksOnly P := by
  rw [Value.LacksOnly, allLackOnly_iff]

@[simp, grind =]
theorem lacksOnly_table : (Value.table keys values).LacksOnly P ↔
    (∀ v ∈ keys, v.LacksOnly P) ∧ ∀ v ∈ values, v.LacksOnly P := by
  rw [Value.LacksOnly, allLackOnly_iff, allLackOnly_iff]

end

/-! ### Outcomes -/

/-- An operation comes to something with a property, or fails. If it fails because something is missing, that is
for one of some reasons. -/
structure Yields (P : String → Prop) (Q : α → Prop) (made : Except Fault α) : Prop where
  ok (a : α) (h : made = .ok a) : Q a
  undefined (reason : String) (h : made = .error (.undefined reason)) : P reason

theorem yields_ok {a : α} (h : Q a) : Yields P Q (.ok a) :=
  ⟨fun _ he => by cases he; exact h, nofun⟩

theorem yields_undefined {reason : String} (h : P reason) : Yields P Q (.error (.undefined reason)) :=
  ⟨nofun, fun _ he => by cases he; exact h⟩

theorem yields_error {fault : Fault} (h : ∀ reason, fault ≠ .undefined reason) : Yields P Q (.error fault) :=
  ⟨nofun, fun reason he => absurd (Except.error.inj he) (h reason)⟩

theorem Yields.mono {made : Except Fault α} (h : Yields P Q made) (hQ : ∀ a, Q a → Q' a) : Yields P Q' made :=
  ⟨fun a he => hQ a (h.ok a he), h.undefined⟩

theorem Yields.bind {made : Except Fault α} {next : α → Except Fault β} {Q' : β → Prop} (h : Yields P Q made)
    (hn : ∀ a, Q a → Yields P Q' (next a)) : Yields P Q' (made >>= next) := by
  cases made with
  | error fault => exact ⟨nofun, fun reason he => h.undefined reason (by cases he; rfl)⟩
  | ok a => exact hn a (h.ok a rfl)

theorem Yields.map {made : Except Fault α} {Q' : β → Prop} {f : α → β} (h : Yields P Q made)
    (hf : ∀ a, Q a → Q' (f a)) : Yields P Q' (made.map f) := by
  cases made with
  | error fault => exact ⟨nofun, fun reason he => h.undefined reason (by cases he; rfl)⟩
  | ok a => exact yields_ok (hf a (h.ok a rfl))

theorem Yields.mapM {f : β → Except Fault α} {l : List β} (h : ∀ b ∈ l, Yields P Q (f b)) :
    Yields P (fun r => ∀ a ∈ r, Q a) (l.mapM f) := by
  induction l with
  | nil => exact yields_ok (List.forall_mem_nil _)
  | cons b l ih =>
    obtain ⟨hb, h⟩ := List.forall_mem_cons.mp h
    rw [List.mapM_cons]
    exact hb.bind fun a ha => (ih h).bind fun r hr => yields_ok (List.forall_mem_cons.mpr ⟨ha, hr⟩)

theorem Yields.forM {f : β → Except Fault PUnit} {l : List β} (h : ∀ b ∈ l, Yields P (fun _ => True) (f b)) :
    Yields P (fun _ => True) (l.forM f) := by
  induction l with
  | nil => exact yields_ok trivial
  | cons b l ih =>
    obtain ⟨hb, h⟩ := List.forall_mem_cons.mp h
    exact hb.bind fun _ _ => ih h

theorem Yields.foldlM {f : α → β → Except Fault α} {l : List β} {a : α} (ha : Q a)
    (h : ∀ b ∈ l, ∀ a, Q a → Yields P Q (f a b)) : Yields P Q (l.foldlM f a) := by
  induction l generalizing a with
  | nil => exact yields_ok ha
  | cons b l ih =>
    obtain ⟨hb, h⟩ := List.forall_mem_cons.mp h
    rw [List.foldlM_cons]
    exact (hb a ha).bind fun a ha => ih ha h

/-! ### Writing, truth and contents -/

theorem yields_intText (n : Int) : Yields P (fun _ => True) (intText n) := by
  unfold intText
  split
  · exact yields_ok trivial
  · exact yields_error nofun

mutual

theorem yields_shown : ∀ v : Value, Yields P (fun _ => True) v.shown
  | .int n => yields_intText n
  | .list items => (yields_shownAll items).bind fun _ _ => yields_ok trivial
  | .tuple items => (yields_shownAll items).map fun _ _ => trivial
  | .table keys values =>
    (yields_shownAll keys).bind fun _ _ => (yields_shownAll values).bind fun _ _ => yields_ok trivial
  | .range start stop step => by
    rw [Value.shown]
    refine (yields_intText start).bind fun _ _ => (yields_intText stop).bind fun _ _ => ?_
    dsimp only
    split
    · exact yields_ok trivial
    · exact (yields_intText step).bind fun _ _ => yields_ok trivial
  | .nothing | .bool _ | .float _ | .text _ _ | .pass _ | .turn _ _ | .function _ | .absent _ _ => yields_ok trivial

theorem yields_shownAll : ∀ items : List Value, Yields P (fun _ => True) (shownAll items)
  | [] => yields_ok trivial
  | v :: items => (yields_shown v).bind fun _ _ => (yields_shownAll items).bind fun _ _ => yields_ok trivial

end

theorem yields_written (h : v.LacksOnly P) : Yields P (fun _ => True) v.written := by
  unfold Value.written
  split
  · exact yields_ok trivial
  · split
    · exact yields_undefined h
    · exact yields_ok trivial
  · exact yields_shown v

theorem yields_isTrue (h : v.LacksOnly P) : Yields P (fun _ => True) v.isTrue := by
  unfold Value.isTrue
  split
  case h_13 =>
    split
    · exact yields_undefined h
    · exact yields_ok trivial
  all_goals exact yields_ok trivial

/-- Everything that is missing in each of some values is missing for one of some reasons. -/
abbrev EachLacksOnly (P : String → Prop) (items : List Value) : Prop :=
  ∀ v ∈ items, v.LacksOnly P

theorem eachLacksOnly_characters (s : String) : EachLacksOnly P (characters s) := by
  simp [EachLacksOnly, characters]

theorem eachLacksOnly_rangeItems (start stop step : Int) : EachLacksOnly P (rangeItems start stop step) := by
  simp [EachLacksOnly, rangeItems]

theorem yields_items (h : v.LacksOnly P) : Yields P (EachLacksOnly P) v.items := by
  unfold Value.items
  split
  · exact yields_ok (eachLacksOnly_characters _)
  · exact yields_ok (lacksOnly_list.mp h)
  · exact yields_ok (lacksOnly_tuple.mp h)
  · exact yields_ok (lacksOnly_table.mp h).1
  · exact yields_ok (eachLacksOnly_rangeItems _ _ _)
  · exact yields_ok (lacksOnly_pass.mp h)
  · split
    · exact yields_undefined h
    · exact yields_ok (List.forall_mem_nil _)
  · exact yields_error nofun

theorem yields_size (h : v.LacksOnly P) : Yields P (fun _ => True) v.size := by
  unfold Value.size
  split
  · exact yields_error nofun
  · exact (yields_items h).map fun _ _ => trivial

/-! ### Comparing -/

theorem mem_of_valueUnder? {key found : Value} {keys values : List Value}
    (h : valueUnder? key keys values = some found) : found ∈ values := by
  fun_induction valueUnder? key keys values with
  | case1 k keys v values hk =>
    cases h
    exact .head _
  | case2 k keys v values hk ih => exact .tail _ (ih h)
  | case3 => cases h

mutual

theorem yields_same : ∀ v w : Value, v.LacksOnly P → w.LacksOnly P → Yields P (fun _ => True) (v.same w)
  | .absent true reason, w, hv, hw => by
    rw [Value.same.eq_def]
    exact yields_undefined hv
  | .absent false reason, w, hv, hw => by
    rw [Value.same.eq_def]
    dsimp only
    split
    · exact yields_undefined hw
    · exact yields_ok trivial
    · exact yields_ok trivial
  | .list items, w, hv, hw => by
    rw [Value.same.eq_def]
    dsimp only
    split
    · exact yields_undefined hw
    · exact yields_sameAll items _ (lacksOnly_list.mp hv) (lacksOnly_list.mp hw)
    · exact yields_ok trivial
  | .tuple items, w, hv, hw => by
    rw [Value.same.eq_def]
    dsimp only
    split
    · exact yields_undefined hw
    · exact yields_sameAll items _ (lacksOnly_tuple.mp hv) (lacksOnly_tuple.mp hw)
    · exact yields_ok trivial
  | .table keys values, w, hv, hw => by
    rw [Value.same.eq_def]
    dsimp only
    split
    · exact yields_undefined hw
    · split
      · exact yields_sameEntries values keys _ _ (lacksOnly_table.mp hv).2 (lacksOnly_table.mp hw).2
      · exact yields_ok trivial
    · exact yields_ok trivial
  | .range start stop step, w, hv, hw => by
    rw [Value.same.eq_def]
    dsimp only
    split
    · exact yields_undefined hw
    · exact yields_ok trivial
    · exact yields_ok trivial
  | .nothing, w, _, hw | .bool _, w, _, hw | .int _, w, _, hw | .float _, w, _, hw | .text _ _, w, _, hw
  | .pass _, w, _, hw | .turn _ _, w, _, hw | .function _, w, _, hw => by
    rw [Value.same.eq_def]
    dsimp only
    split
    · exact yields_undefined hw
    · exact yields_ok trivial

theorem yields_sameAll : ∀ items others : List Value, EachLacksOnly P items → EachLacksOnly P others →
    Yields P (fun _ => True) (sameAll items others)
  | [], [], _, _ | [], _ :: _, _, _ | _ :: _, [], _, _ => by
    rw [sameAll.eq_def]
    exact yields_ok trivial
  | v :: items, w :: others, hv, hw => by
    obtain ⟨hv, hitems⟩ := List.forall_mem_cons.mp hv
    obtain ⟨hw, hothers⟩ := List.forall_mem_cons.mp hw
    rw [sameAll]
    refine (yields_same v w hv hw).bind fun isSame _ => ?_
    split
    · exact yields_sameAll items others hitems hothers
    · exact yields_ok trivial

theorem yields_sameEntries : ∀ values keys others results : List Value, EachLacksOnly P values →
    EachLacksOnly P results → Yields P (fun _ => True) (sameEntries keys others results values)
  | [], _, _, _, _, _ | _ :: _, [], _, _, _, _ => by
    rw [sameEntries.eq_def]
    exact yields_ok trivial
  | v :: values, k :: keys, others, results, hv, hr => by
    obtain ⟨hv, hvalues⟩ := List.forall_mem_cons.mp hv
    rw [sameEntries]
    split
    · exact yields_ok trivial
    · next r hfound =>
      refine (yields_same v r hv (hr r (mem_of_valueUnder? hfound))).bind fun isSame _ => ?_
      split
      · exact yields_sameEntries values keys others results hvalues hr
      · exact yields_ok trivial

end

mutual

theorem yields_less : ∀ v w : Value, v.LacksOnly P → w.LacksOnly P → Yields P (fun _ => True) (v.less w)
  | .absent isStrict reason, w, hv, hw => by
    rw [Value.less.eq_def]
    exact yields_undefined hv
  | .list items, w, hv, hw => by
    rw [Value.less.eq_def]
    dsimp only
    split
    · exact yields_undefined hw
    · exact yields_lessAll items _ (lacksOnly_list.mp hv) (lacksOnly_list.mp hw)
    · exact yields_error nofun
  | .tuple items, w, hv, hw => by
    rw [Value.less.eq_def]
    dsimp only
    split
    · exact yields_undefined hw
    · exact yields_lessAll items _ (lacksOnly_tuple.mp hv) (lacksOnly_tuple.mp hw)
    · exact yields_error nofun
  | .text s isEscaped, w, hv, hw => by
    rw [Value.less.eq_def]
    dsimp only
    split
    · exact yields_undefined hw
    · exact yields_ok trivial
    · exact yields_error nofun
  | .nothing, w, _, hw | .bool _, w, _, hw | .int _, w, _, hw | .float _, w, _, hw | .table _ _, w, _, hw
  | .range _ _ _, w, _, hw | .pass _, w, _, hw | .turn _ _, w, _, hw | .function _, w, _, hw => by
    rw [Value.less.eq_def]
    dsimp only
    split
    · exact yields_undefined hw
    · split
      · exact yields_ok trivial
      · exact yields_error nofun

theorem yields_lessAll : ∀ items others : List Value, EachLacksOnly P items → EachLacksOnly P others →
    Yields P (fun _ => True) (lessAll items others)
  | [], [], _, _ | [], _ :: _, _, _ | _ :: _, [], _, _ => by
    rw [lessAll.eq_def]
    exact yields_ok trivial
  | v :: items, w :: others, hv, hw => by
    obtain ⟨hv, hitems⟩ := List.forall_mem_cons.mp hv
    obtain ⟨hw, hothers⟩ := List.forall_mem_cons.mp hw
    rw [lessAll]
    refine (yields_same v w hv hw).bind fun isSame _ => ?_
    split
    · exact yields_lessAll items others hitems hothers
    · exact yields_less v w hv hw

end

theorem yields_isAmong (hv : v.LacksOnly P) (h : EachLacksOnly P items) :
    Yields P (fun _ => True) (isAmong v items) := by
  induction items with
  | nil => exact yields_ok trivial
  | cons w items ih =>
    obtain ⟨hw, h⟩ := List.forall_mem_cons.mp h
    rw [isAmong]
    refine (yields_same v w hv hw).bind fun isSame _ => ?_
    split
    · exact yields_ok trivial
    · exact ih h

/-! ### Arithmetic -/

theorem yields_present (h : v.LacksOnly P) : Yields P (fun _ => True) v.present := by
  unfold Value.present
  split
  · exact yields_undefined h
  · exact yields_ok trivial

theorem yields_fitFloat (a : Number) : Yields P (fun _ => True) a.fitFloat := by
  unfold Number.fitFloat
  split
  · split
    · exact yields_error nofun
    · exact yields_ok trivial
  · exact yields_ok trivial

theorem yields_floatPower (x y : Float) : Yields P (Value.LacksOnly P) (floatPower x y) := by
  unfold floatPower
  dsimp only
  repeat' split
  all_goals first | exact yields_error nofun | exact yields_ok trivial

theorem yields_floatOperation (op : BinaryOp) (x y : Float) :
    Yields P (Value.LacksOnly P) (floatOperation op x y) := by
  unfold floatOperation
  repeat' split
  all_goals first | exact yields_error nofun | exact yields_floatPower x y | exact yields_ok trivial

theorem yields_intQuotient (m n : Int) : Yields P (Value.LacksOnly P) (intQuotient m n) := by
  refine (yields_fitFloat _).bind fun x _ => (yields_fitFloat _).bind fun y _ => ?_
  split
  · exact yields_error nofun
  · exact yields_ok trivial

theorem yields_numberOperation (op : BinaryOp) (a b : Number) :
    Yields P (Value.LacksOnly P) (numberOperation op a b) := by
  have hfloat (a b : Number) : Yields P (Value.LacksOnly P) (do
      let x ← a.fitFloat
      let y ← b.fitFloat
      floatOperation op x y) :=
    (yields_fitFloat a).bind fun x _ => (yields_fitFloat b).bind fun y _ => yields_floatOperation op x y
  unfold numberOperation
  split
  · split
    · exact yields_ok trivial
    · exact yields_ok trivial
    · exact yields_ok trivial
    · exact yields_intQuotient _ _
    · split
      · exact yields_error nofun
      · exact yields_ok trivial
    · split
      · exact yields_error nofun
      · exact yields_ok trivial
    · unfold intPower
      repeat' split
      all_goals first | exact yields_error nofun | exact yields_ok trivial
  · exact hfloat _ _

theorem lacksOnly_of_repeated? {found : Value} (hv : v.LacksOnly P) (h : repeated? v w = some found) :
    found.LacksOnly P := by
  have hitems {items : List Value} (h : EachLacksOnly P items) (n : Int) :
      EachLacksOnly P (repeatItems items n) := by
    intro u hu
    obtain ⟨l, hl, hu⟩ := List.mem_flatten.mp hu
    exact h u (List.eq_of_mem_replicate hl ▸ hu)
  unfold repeated? at h
  split at h
  · cases h
    trivial
  · cases h
    exact lacksOnly_list.mpr (hitems (lacksOnly_list.mp hv) _)
  · cases h
    exact lacksOnly_tuple.mpr (hitems (lacksOnly_tuple.mp hv) _)
  · cases h

theorem yields_sequenceOperation (op : BinaryOp) (hv : v.LacksOnly P) (hw : w.LacksOnly P) :
    Yields P (Value.LacksOnly P) (sequenceOperation op v w) := by
  unfold sequenceOperation
  split
  · split
    · refine yields_ok ?_
      unfold addTexts
      split <;> trivial
    · exact yields_ok (lacksOnly_list.mpr
        (List.forall_mem_append.mpr ⟨lacksOnly_list.mp hv, lacksOnly_list.mp hw⟩))
    · exact yields_ok (lacksOnly_tuple.mpr
        (List.forall_mem_append.mpr ⟨lacksOnly_tuple.mp hv, lacksOnly_tuple.mp hw⟩))
    · exact yields_error nofun
  · split
    · next found hfound =>
      refine yields_ok ?_
      rcases Option.or_eq_some_iff.mp hfound with h | ⟨-, h⟩
      · exact lacksOnly_of_repeated? hv h
      · exact lacksOnly_of_repeated? hw h
    · exact yields_error nofun
  · exact yields_error nofun

theorem yields_binary (op : BinaryOp) (hv : v.LacksOnly P) (hw : w.LacksOnly P) :
    Yields P (Value.LacksOnly P) (op.apply v w) := by
  refine (yields_present hv).bind fun _ _ => (yields_present hw).bind fun _ _ => ?_
  split
  · exact yields_numberOperation op _ _
  · exact yields_sequenceOperation op hv hw

theorem yields_unary (op : UnaryOp) (hv : v.LacksOnly P) : Yields P (Value.LacksOnly P) (op.apply v) := by
  refine (yields_present hv).bind fun _ _ => ?_
  split
  all_goals first | exact yields_ok trivial | exact yields_error nofun

theorem yields_joinAll (h : EachLacksOnly P items) : Yields P (Value.LacksOnly P) (joinAll items) :=
  (Yields.mapM fun v hv => yields_written (h v hv)).bind fun _ _ => yields_ok trivial

/-! ### Tables and comparisons -/

theorem yields_canBeKey (h : v.LacksOnly P) : Yields P (fun _ => True) v.canBeKey := by
  unfold Value.canBeKey
  split
  · exact yields_error nofun
  · exact yields_error nofun
  · exact yields_undefined h
  · exact yields_ok trivial

theorem eachLacksOnly_putEntry {keys values : List Value} (hv : v.LacksOnly P) (hw : w.LacksOnly P)
    (hk : EachLacksOnly P keys) (h : EachLacksOnly P values) :
    EachLacksOnly P (putEntry v w keys values).1 ∧ EachLacksOnly P (putEntry v w keys values).2 := by
  fun_induction putEntry v w keys values with
  | case1 k keys u values hsame =>
    exact ⟨hk, List.forall_mem_cons.mpr ⟨hw, (List.forall_mem_cons.mp h).2⟩⟩
  | case2 k keys u values hsame keys' values' hput ih =>
    obtain ⟨hkey, hk⟩ := List.forall_mem_cons.mp hk
    obtain ⟨hu, h⟩ := List.forall_mem_cons.mp h
    have := ih hk h
    rw [hput] at this
    exact ⟨List.forall_mem_cons.mpr ⟨hkey, this.1⟩, List.forall_mem_cons.mpr ⟨hu, this.2⟩⟩
  | case3 => exact ⟨List.forall_mem_singleton.mpr hv, List.forall_mem_singleton.mpr hw⟩

theorem yields_tableOf {keys values : List Value} (hk : EachLacksOnly P keys) (hv : EachLacksOnly P values) :
    Yields P (Value.LacksOnly P) (tableOf keys values) := by
  refine (Yields.forM fun k hm => yields_canBeKey (hk k hm)).bind fun _ _ => yields_ok ?_
  have hall (entries : List (Value × Value)) (he : ∀ e ∈ entries, e.1.LacksOnly P ∧ e.2.LacksOnly P)
      (t : List Value × List Value) (ht : EachLacksOnly P t.1 ∧ EachLacksOnly P t.2) :
      EachLacksOnly P (entries.foldl (fun t e => putEntry e.1 e.2 t.1 t.2) t).1 ∧
        EachLacksOnly P (entries.foldl (fun t e => putEntry e.1 e.2 t.1 t.2) t).2 := by
    induction entries generalizing t with
    | nil => exact ht
    | cons e entries ih =>
      obtain ⟨hfirst, he⟩ := List.forall_mem_cons.mp he
      exact ih he _ (eachLacksOnly_putEntry hfirst.1 hfirst.2 ht.1 ht.2)
  exact lacksOnly_table.mpr (hall _ (fun e he => ⟨hk _ (List.of_mem_zip he).1, hv _ (List.of_mem_zip he).2⟩) _
    ⟨List.forall_mem_nil _, List.forall_mem_nil _⟩)

theorem yields_isIn (hv : v.LacksOnly P) (hw : w.LacksOnly P) : Yields P (fun _ => True) (v.isIn w) := by
  unfold Value.isIn
  split
  · split
    · exact yields_ok trivial
    · exact yields_error nofun
  · exact (yields_canBeKey hv).map fun _ _ => trivial
  · exact (yields_items hw).bind fun items h => yields_isAmong hv h

theorem yields_comparison (op : Comparison) (hv : v.LacksOnly P) (hw : w.LacksOnly P) :
    Yields P (fun _ => True) (op.holds v w) := by
  have hpresent := yields_present hv
  cases op with
  | equal => exact yields_same v w hv hw
  | unequal => exact (yields_same v w hv hw).map fun _ _ => trivial
  | among => exact yields_isIn hv hw
  | notAmong => exact (yields_isIn hv hw).map fun _ _ => trivial
  | less => exact hpresent.bind fun _ _ => yields_less v w hv hw
  | greater => exact hpresent.bind fun _ _ => yields_less w v hw hv
  | lessEqual => exact hpresent.bind fun _ _ => (yields_less w v hw hv).map fun _ _ => trivial
  | greaterEqual => exact hpresent.bind fun _ _ => (yields_less v w hv hw).map fun _ _ => trivial

/-! ### Access -/

/-- A reason for which something may be absent that was looked up in a value. -/
def IsLookup (reason : String) : Prop :=
  ∃ v key : Value, noElement v key = .absent true reason

theorem lacksOnly_noElement (hP : ∀ reason, IsLookup reason → P reason) (v key : Value) :
    (noElement v key).LacksOnly P := by
  have habsent : ∃ reason, noElement v key = .absent true reason := by
    unfold noElement noAttribute
    split <;> exact ⟨_, rfl⟩
  obtain ⟨reason, hr⟩ := habsent
  rw [hr]
  exact hP reason ⟨v, key, hr⟩

theorem lacksOnly_getD {found? : Option Value} {other : Value} (h : ∀ found, found? = some found → found.LacksOnly P)
    (ho : other.LacksOnly P) : (found?.getD other).LacksOnly P := by
  cases found? with
  | none => exact ho
  | some found => exact h found rfl

theorem lacksOnly_of_itemAt? {i : Int} {found : Value} (h : EachLacksOnly P items)
    (hf : itemAt? items i = some found) :
    found.LacksOnly P := by
  unfold itemAt? at hf
  split at hf
  · exact h found (List.mem_of_getElem? hf)
  · split at hf
    · exact h found (List.mem_of_getElem? hf)
    · cases hf

theorem lacksOnly_of_turnAttribute? {index : Nat} {name : String} {found : Value}
    (h : turnAttribute? index items name = some found) : found.LacksOnly P := by
  unfold turnAttribute? at h
  dsimp only at h
  repeat' split at h
  all_goals cases h <;> trivial

/-- What is looked up in a value is there, or absent because the value does not have it. -/
theorem yields_item {key : Value} (hv : v.LacksOnly P) (hk : key.LacksOnly P) (hn : (noElement v key).LacksOnly P) :
    Yields P (Value.LacksOnly P) (v.item key) := by
  have hat {items : List Value} (h : EachLacksOnly P items) :
      ((key.integer?.bind (itemAt? items)).getD (noElement v key)).LacksOnly P := by
    refine lacksOnly_getD (fun found hf => ?_) hn
    obtain ⟨i, -, hi⟩ := Option.bind_eq_some_iff.mp hf
    exact lacksOnly_of_itemAt? h hi
  unfold Value.item
  dsimp only
  split
  · exact yields_undefined hv
  · split
    · exact yields_ok hn
    · exact yields_ok hn
    · exact yields_undefined hk
    · exact yields_ok (lacksOnly_getD (fun found hf => (lacksOnly_table.mp hv).2 found (mem_of_valueUnder? hf)) hn)
  · split
    · exact yields_ok (lacksOnly_getD (fun found hf => lacksOnly_of_turnAttribute? hf) hn)
    · exact yields_ok hn
  · split
    · refine yields_ok ?_
      split
      · trivial
      · exact hn
    · exact yields_ok hn
  · exact yields_ok (hat (lacksOnly_list.mp hv))
  · exact yields_ok (hat (lacksOnly_tuple.mp hv))
  · exact yields_ok (hat (eachLacksOnly_rangeItems _ _ _))
  · exact yields_ok hn

theorem yields_bound? (v : Value) : Yields P (fun _ => True) v.bound? := by
  unfold Value.bound?
  split
  · exact yields_ok trivial
  · split
    · exact yields_ok trivial
    · exact yields_error nofun

theorem yields_slice (hv : v.LacksOnly P) (start stop step : Value) :
    Yields P (Value.LacksOnly P) (v.slice start stop step) := by
  have hpart {items : List Value} (h : EachLacksOnly P items) (start? stop? : Option Int) (step : Int) :
      EachLacksOnly P (partOf items start? stop? step) := by
    intro u hu
    obtain ⟨i, -, hi⟩ := List.mem_filterMap.mp hu
    exact h u (List.mem_of_getElem? hi)
  refine (yields_present hv).bind fun _ _ => (yields_bound? start).bind fun start? _ =>
    (yields_bound? stop).bind fun stop? _ => (yields_bound? step).bind fun step? _ => ?_
  dsimp only
  split
  · exact yields_error nofun
  · split
    · exact yields_ok trivial
    · exact yields_ok (lacksOnly_list.mpr (hpart (lacksOnly_list.mp hv) _ _ _))
    · exact yields_ok (lacksOnly_tuple.mpr (hpart (lacksOnly_tuple.mp hv) _ _ _))
    · exact yields_error nofun

/-! ### Filters of texts -/

theorem yields_softText (h : v.LacksOnly P) : Yields P (fun _ => True) v.softText := by
  unfold Value.softText
  split
  · exact yields_ok trivial
  · exact (yields_written h).map fun _ _ => trivial

theorem yields_mapText (change : List Char → List Char) (h : v.LacksOnly P) :
    Yields P (Value.LacksOnly P) (mapText change v) :=
  (yields_softText h).map fun _ _ => trivial

theorem yields_replaced {old new count : Value} (hv : v.LacksOnly P) (ho : old.LacksOnly P) (hn : new.LacksOnly P) :
    Yields P (Value.LacksOnly P) (replaced v old new count) := by
  refine (yields_written hv).bind fun s _ => (yields_written ho).bind fun old _ =>
    (yields_written hn).bind fun new _ => ?_
  dsimp only
  split
  · exact yields_ok trivial
  · split
    · exact yields_ok trivial
    · exact yields_error nofun

theorem yields_trimmed {chars : Value} (hv : v.LacksOnly P) : Yields P (Value.LacksOnly P) (trimmed v chars) := by
  unfold trimmed
  split
  · exact yields_mapText _ hv
  · exact yields_mapText _ hv
  · exact (yields_softText hv).bind fun _ _ => yields_error nofun

theorem yields_escaped (h : v.LacksOnly P) : Yields P (Value.LacksOnly P) (escaped v) :=
  (yields_softText h).map fun _ _ => trivial

/-! ### Filters of lists -/

theorem eachLacksOnly_path (h : v.LacksOnly P) : EachLacksOnly P v.path := by
  unfold Value.path
  split
  · exact List.forall_mem_nil _
  · intro u hu
    obtain ⟨part, -, rfl⟩ := List.mem_map.mp hu
    split <;> trivial
  · exact List.forall_mem_singleton.mpr h

/-- Following a path looks something up, unless the path is empty. -/
theorem yields_follow {path : List Value} (hv : v.LacksOnly P) (hp : EachLacksOnly P path)
    (hP : path = [] ∨ ∀ reason, IsLookup reason → P reason) : Yields P (Value.LacksOnly P) (v.follow path) := by
  rcases hP with rfl | hP
  · exact yields_ok hv
  · exact Yields.foldlM hv fun key hk v hv => yields_item hv (hp key hk) (lacksOnly_noElement hP v key)

theorem yields_joined {between path : Value} (hv : v.LacksOnly P) (hb : between.LacksOnly P) (hp : path.LacksOnly P)
    (hP : path.path = [] ∨ ∀ reason, IsLookup reason → P reason) :
    Yields P (Value.LacksOnly P) (joined v between path) := by
  refine (yields_written hb).bind fun between _ => (yields_items hv).bind fun items hitems => ?_
  refine (Yields.mapM (Q := fun _ => True) fun item hm => ?_).bind fun _ _ => yields_ok trivial
  exact (yields_follow (hitems item hm) (eachLacksOnly_path hp) hP).bind fun v hv => yields_written hv

theorem lacksOnly_head? {other : Value} (h : EachLacksOnly P items) (ho : other.LacksOnly P) :
    (items.head?.getD other).LacksOnly P :=
  lacksOnly_getD (fun found hf => h found (List.mem_of_mem_head? hf)) ho

theorem yields_firstItem (hv : v.LacksOnly P) (hP : P "No first item, sequence was empty.") :
    Yields P (Value.LacksOnly P) (firstItem v) :=
  (yields_items hv).map fun _ h => lacksOnly_head? h hP

theorem yields_itemsBackwards (hv : v.LacksOnly P) : Yields P (EachLacksOnly P) v.itemsBackwards := by
  unfold Value.itemsBackwards
  split
  · exact yields_error nofun
  · exact (yields_items hv).map fun items h u hu => h u (List.mem_reverse.mp hu)

theorem yields_lastItem (hv : v.LacksOnly P) (hP : P "No last item, sequence was empty.") :
    Yields P (Value.LacksOnly P) (lastItem v) :=
  (yields_itemsBackwards hv).map fun _ h => lacksOnly_head? h hP

theorem yields_reversed (hv : v.LacksOnly P) : Yields P (Value.LacksOnly P) (reversed v) := by
  unfold reversed
  split
  · exact yields_ok trivial
  · exact yields_ok (lacksOnly_list.mpr fun u hu => lacksOnly_pass.mp hv u (List.mem_reverse.mp hu))
  · have hback := yields_itemsBackwards hv
    split
    · next items hitems => exact yields_ok (lacksOnly_pass.mpr (hback.ok items hitems))
    · exact yields_error nofun
    · next fault _ hfault => exact ⟨nofun, fun reason he => hback.undefined reason (by rw [hfault]; cases he; rfl)⟩

/-- Everything that is missing in some items and in their keys is missing for one of some reasons. -/
abbrev EachKeyedLacksOnly (P : String → Prop) (items : List (Value × Value)) : Prop :=
  ∀ item ∈ items, item.1.LacksOnly P ∧ item.2.LacksOnly P

theorem yields_insertItem {item : Value × Value} {sorted : List (Value × Value)}
    (hi : item.1.LacksOnly P ∧ item.2.LacksOnly P) (hs : EachKeyedLacksOnly P sorted) :
    Yields P (EachKeyedLacksOnly P) (insertItem item sorted) := by
  induction sorted with
  | nil => exact yields_ok (List.forall_mem_singleton.mpr hi)
  | cons other sorted ih =>
    obtain ⟨ho, hs⟩ := List.forall_mem_cons.mp hs
    rw [insertItem]
    refine (yields_lessAll _ _ (List.forall_mem_singleton.mpr hi.1) (List.forall_mem_singleton.mpr ho.1)).bind
      fun isBefore _ => ?_
    split
    · exact (ih hs).map fun _ h => List.forall_mem_cons.mpr ⟨ho, h⟩
    · exact yields_ok (List.forall_mem_cons.mpr ⟨hi, List.forall_mem_cons.mpr ⟨ho, hs⟩⟩)

theorem yields_sortItems {items : List (Value × Value)} (h : EachKeyedLacksOnly P items) :
    Yields P (EachKeyedLacksOnly P) (sortItems items) :=
  (Yields.foldlM (Q := EachKeyedLacksOnly P) (List.forall_mem_nil _)
    fun item hm _ hs => yields_insertItem (h item hm) hs).map
    fun _ h item hm => h item (List.mem_reverse.mp hm)

theorem yields_sorted {isReverse isExact path : Value} (hv : v.LacksOnly P) (he : isExact.LacksOnly P)
    (hp : path.LacksOnly P) (hP : path.path = [] ∨ ∀ reason, IsLookup reason → P reason) :
    Yields P (Value.LacksOnly P) (sorted v isReverse isExact path) := by
  have hcase {v : Value} (h : v.LacksOnly P) : (ignoringCase v).LacksOnly P := by
    unfold ignoringCase
    split
    · trivial
    · exact h
  refine (yields_isTrue he).bind fun isExact _ => (yields_items hv).bind fun items hitems => ?_
  refine (Yields.mapM (Q := fun item => item.1.LacksOnly P ∧ item.2.LacksOnly P) fun item hm => ?_).bind
    fun keyed hkeyed => ?_
  · refine (yields_follow (hitems item hm) (eachLacksOnly_path hp) hP).map fun key hk => ⟨?_, hitems item hm⟩
    split
    · exact hk
    · exact hcase hk
  · split
    · exact yields_error nofun
    · refine (yields_sortItems ?_).bind fun found hfound => yields_ok (lacksOnly_list.mpr ?_)
      · split
        · exact hkeyed
        · exact fun item hm => hkeyed item (List.mem_reverse.mp hm)
      · have hall : EachLacksOnly P (found.map Prod.snd) := by
          intro u hu
          obtain ⟨item, hm, rfl⟩ := List.mem_map.mp hu
          exact (hfound item hm).2
        split
        · exact hall
        · exact fun u hu => hall u (List.mem_reverse.mp hu)

/-! ### Other filters -/

theorem yields_asInteger {default base : Value} (hv : v.LacksOnly P) (hd : default.LacksOnly P) :
    Yields P (Value.LacksOnly P) (asInteger v default base) := by
  unfold asInteger
  split
  · exact yields_undefined hv
  · refine yields_ok (lacksOnly_getD (fun found hf => ?_) hd)
    obtain ⟨n, -, rfl⟩ := Option.map_eq_some_iff.mp hf
    trivial
  · split
    · exact yields_ok trivial
    · split
      · exact yields_ok trivial
      · split
        · exact yields_error fun _ h => by cases h
        · exact yields_ok hd
    · exact yields_ok hd

theorem yields_defaulted {default isLoose : Value} (hv : v.LacksOnly P) (hd : default.LacksOnly P)
    (hl : isLoose.LacksOnly P) : Yields P (Value.LacksOnly P) (defaulted v default isLoose) := by
  unfold defaulted
  split
  · exact yields_ok hd
  · refine (yields_isTrue hl).bind fun isLoose _ => ?_
    split
    · refine (yields_isTrue hv).bind fun isTrue _ => ?_
      split
      · exact yields_ok hv
      · exact yields_ok hd
    · exact yields_ok hv

/-! ### Arguments -/

/-- Everything that is missing in some arguments is missing for one of some reasons. -/
structure Arguments.LackOnly (P : String → Prop) (given : Arguments) : Prop where
  inOrder : EachLacksOnly P given.inOrder
  named (e : String × Value) (h : e ∈ given.named) : e.2.LacksOnly P

theorem Arguments.lackOnly_ofList {names : List String} (h : EachLacksOnly P items) :
    (Arguments.ofList items names).LackOnly P where
  inOrder v hv := h v (List.mem_of_mem_take hv)
  named e he := h e.2 (List.mem_of_mem_drop (List.of_mem_zip he).2)

variable {named : List (String × Value)} {inOrder : List Value} {given : Arguments}

theorem lacksOnly_of_bindFrom {params : List String} (hn : ∀ e ∈ named, e.2.LacksOnly P)
    (ho : EachLacksOnly P inOrder) :
    ∀ v, some v ∈ bindFrom named params inOrder → v.LacksOnly P := by
  intro u hu
  fun_induction bindFrom named params inOrder with
  | case1 => cases hu
  | case2 p params v inOrder ih =>
    obtain ⟨hv, ho⟩ := List.forall_mem_cons.mp ho
    rcases List.mem_cons.mp hu with hu | hu
    · cases hu
      exact hv
    · exact ih ho hu
  | case3 p params ih =>
    rcases List.mem_cons.mp hu with hu | hu
    · obtain ⟨l, r, he, -⟩ := List.lookup_eq_some_iff.mp hu.symm
      exact hn (p, u) (he ▸ List.mem_append_right _ (.head _))
    · exact ih ho hu

/-- An argument that is bound to a parameter stands in its order, or has its name. -/
theorem bindFrom_eq_none {params : List String} {i : Nat} (hi : inOrder.length ≤ i)
    (hn : ∀ p, params[i]? = some p → named.lookup p = none) : (bindFrom named params inOrder)[i]?.join = none := by
  induction params generalizing inOrder i with
  | nil => rfl
  | cons p params ih =>
    cases inOrder with
    | nil =>
      rw [bindFrom]
      cases i with
      | zero => simpa using hn p rfl
      | succ i =>
        rw [List.getElem?_cons_succ]
        exact ih (Nat.zero_le i) hn
    | cons v inOrder =>
      rw [bindFrom]
      cases i with
      | zero => exact absurd hi (by simp)
      | succ i =>
        rw [List.getElem?_cons_succ]
        exact ih (Nat.le_of_succ_le_succ hi) hn

theorem lacksOnly_argument {bound : List (Option Value)} {i : Nat} {default : Value}
    (hb : ∀ v, some v ∈ bound → v.LacksOnly P) (hd : default.LacksOnly P) : (argument bound i default).LacksOnly P :=
  lacksOnly_getD (fun v hv => hb v (List.mem_of_getElem? (Option.join_eq_some_iff.mp hv))) hd

theorem bindArguments_eq_ok {least : Nat} {params : List String} {bound : List (Option Value)}
    (h : bindArguments least params given = .ok bound) : bound = bindFrom given.named params given.inOrder := by
  unfold bindArguments at h
  dsimp only at h
  split at h
  · cases h
  split at h
  · cases h
  split at h <;> cases h
  rfl

theorem bindArguments_ne_undefined {least : Nat} {params : List String} (reason : String) :
    bindArguments least params given ≠ .error (.undefined reason) := by
  unfold bindArguments
  dsimp only
  repeat' split
  all_goals nofun

/-! ### Applying filters and functions -/

/-- The reasons for which what a filter comes to may be absent: it takes an item that may not be there, or it has
an argument for a path that it follows. `count` is the number of arguments, and `names` are those that some have. -/
def LackedByFilter (name : String) (count : Nat) (names : List String) (reason : String) : Prop :=
  (name = "first" ∧ reason = "No first item, sequence was empty.") ∨
    (name = "last" ∧ reason = "No last item, sequence was empty.") ∨
    ((name = "join" ∧ (2 ≤ count ∨ "attribute" ∈ names) ∨ name = "sort" ∧ (3 ≤ count ∨ "attribute" ∈ names)) ∧
      IsLookup reason)

/-- A path that no argument is given for is empty. -/
theorem path_argument_ofList {params names : List String} {i : Nat} (hi : items.length ≤ i)
    (hn : ∀ p, params[i]? = some p → p ∉ names) :
    (argument (bindFrom (Arguments.ofList items names).named params (Arguments.ofList items names).inOrder) i
      .nothing).path = [] := by
  have hlength : (Arguments.ofList items names).inOrder.length ≤ i :=
    Nat.le_trans (List.length_take_le' _ _) hi
  have hlookup : ∀ p, params[i]? = some p → (Arguments.ofList items names).named.lookup p = none := by
    intro p hp
    rw [List.lookup_eq_none_iff]
    intro e he
    have hmem : e.1 ∈ names := (List.of_mem_zip he).1
    rw [bne_iff_ne]
    exact fun heq => hn p hp (heq ▸ hmem)
  rw [argument, bindFrom_eq_none hlength hlookup]
  rfl

/-- Every filter of the language comes to what its arguments and its value lack, or what it lacks itself. -/
theorem yields_filter {name : String} {filter : Filter} (hf : (name, filter) ∈ filters) {bound : List (Option Value)}
    (hv : v.LacksOnly P) (hb : ∀ v, some v ∈ bound → v.LacksOnly P)
    (hfirst : name = "first" → P "No first item, sequence was empty.")
    (hlast : name = "last" → P "No last item, sequence was empty.")
    (hjoin : name = "join" → (argument bound 1 .nothing).path = [] ∨ ∀ reason, IsLookup reason → P reason)
    (hsort : name = "sort" → (argument bound 2 .nothing).path = [] ∨ ∀ reason, IsLookup reason → P reason) :
    Yields P (Value.LacksOnly P) (filter.apply v bound) := by
  have harg (i : Nat) {default : Value} (hd : default.LacksOnly P) : (argument bound i default).LacksOnly P :=
    lacksOnly_argument hb hd
  have hdefault : Yields P (Value.LacksOnly P)
      (defaulted v (argument bound 0 (.plain "")) (argument bound 1 (.bool false))) :=
    yields_defaulted hv (harg 0 trivial) (harg 1 trivial)
  have hsize : Yields P (Value.LacksOnly P) ((do let n ← v.size; pure (n : Int)).map .int) :=
    Yields.map (Q := fun _ => True) ((yields_size hv).bind fun _ _ => yields_ok trivial) fun _ _ => trivial
  simp only [filters, List.mem_cons, List.not_mem_nil, or_false, Prod.mk.injEq] at hf
  rcases hf with ⟨rfl, rfl⟩ | ⟨rfl, rfl⟩ | ⟨rfl, rfl⟩ | ⟨rfl, rfl⟩ | ⟨rfl, rfl⟩ | ⟨rfl, rfl⟩ |
    ⟨rfl, rfl⟩ | ⟨rfl, rfl⟩ | ⟨rfl, rfl⟩ | ⟨rfl, rfl⟩ | ⟨rfl, rfl⟩ | ⟨rfl, rfl⟩ |
    ⟨rfl, rfl⟩ | ⟨rfl, rfl⟩ | ⟨rfl, rfl⟩ | ⟨rfl, rfl⟩ | ⟨rfl, rfl⟩ | ⟨rfl, rfl⟩
  · exact hdefault
  · exact hdefault
  · exact yields_escaped hv
  · exact yields_escaped hv
  · exact yields_mapText _ hv
  · exact yields_mapText _ hv
  · exact yields_mapText _ hv
  · exact (yields_softText hv).map fun _ _ => trivial
  · exact yields_trimmed hv
  · exact hsize
  · exact yields_joined hv (harg 0 trivial) (harg 1 trivial) (hjoin rfl)
  · exact yields_firstItem hv (hfirst rfl)
  · exact yields_lastItem hv (hlast rfl)
  · exact yields_replaced hv (harg 0 trivial) (harg 1 trivial)
  · exact yields_sorted hv (harg 1 trivial) (harg 2 trivial) (hsort rfl)
  · exact yields_reversed hv
  · exact yields_asInteger hv (harg 0 trivial)
  · exact (yields_softText hv).map fun _ _ => trivial

theorem mem_of_lookup {β : Type} {entries : List (String × β)} {name : String} {found : β}
    (h : entries.lookup name = some found) : (name, found) ∈ entries := by
  obtain ⟨l, r, he, -⟩ := List.lookup_eq_some_iff.mp h
  exact he ▸ List.mem_append_right _ (.head _)

theorem yields_applyFilter {name : String} {names : List String} (hv : v.LacksOnly P) (ha : EachLacksOnly P items)
    (hP : ∀ reason, LackedByFilter name items.length names reason → P reason) :
    Yields P (Value.LacksOnly P) (applyFilter name v (.ofList items names)) := by
  have hgiven : (Arguments.ofList items names).LackOnly P := Arguments.lackOnly_ofList ha
  unfold applyFilter
  split
  · exact yields_error nofun
  · next filter hf =>
    cases hbound : bindArguments filter.least filter.params (Arguments.ofList items names) with
    | error fault =>
      exact ⟨nofun, fun reason he => absurd (by cases he; exact hbound) (bindArguments_ne_undefined reason)⟩
    | ok bound =>
      obtain rfl := bindArguments_eq_ok hbound
      -- A path is looked up only if there is an argument for it.
      have hpath {i : Nat} (h : filter.params[i]? = some "attribute")
          (hl : i + 1 ≤ items.length ∨ "attribute" ∈ names → ∀ reason, IsLookup reason → P reason) :
          (argument (bindFrom (Arguments.ofList items names).named filter.params
            (Arguments.ofList items names).inOrder) i .nothing).path = [] ∨ ∀ reason, IsLookup reason → P reason := by
        by_cases hc : i + 1 ≤ items.length ∨ "attribute" ∈ names
        · exact .inr (hl hc)
        · rw [not_or, Nat.not_le, Nat.lt_succ_iff] at hc
          refine .inl (path_argument_ofList hc.1 fun p hp => ?_)
          rw [h, Option.some.injEq] at hp
          exact hp ▸ hc.2
      have hparams {n : String} {other : Filter} (hn : name = n) (h : filters.lookup n = some other) :
          filter.params = other.params := by
        rw [hn, h, Option.some.injEq] at hf
        rw [hf]
      exact yields_filter (mem_of_lookup hf) hv (lacksOnly_of_bindFrom hgiven.named hgiven.inOrder)
        (fun hn => hP _ (.inl ⟨hn, rfl⟩)) (fun hn => hP _ (.inr (.inl ⟨hn, rfl⟩)))
        (fun hn => hpath (by rw [hparams hn rfl]; rfl) fun hc reason hr => hP _ (.inr (.inr ⟨.inl ⟨hn, hc⟩, hr⟩)))
        (fun hn => hpath (by rw [hparams hn rfl]; rfl) fun hc reason hr => hP _ (.inr (.inr ⟨.inr ⟨hn, hc⟩, hr⟩)))

theorem yields_passesTest {name : String} : Yields P (fun _ => True) (passesTest name v given) := by
  unfold passesTest
  split
  · exact yields_error nofun
  · cases hbound : bindArguments 0 [] given with
    | error fault =>
      exact ⟨nofun, fun reason he => absurd (by cases he; exact hbound) (bindArguments_ne_undefined reason)⟩
    | ok bound => exact yields_ok trivial

theorem yields_applyValue (hv : v.LacksOnly P) (hg : given.LackOnly P) :
    Yields P (Value.LacksOnly P) (applyValue v given) := by
  have hrange : Yields P (Value.LacksOnly P) (rangeOf given.inOrder) := by
    unfold rangeOf
    split
    · exact yields_ok trivial
    · exact yields_ok trivial
    · split
      · exact yields_error nofun
      · exact yields_ok trivial
    · exact yields_error nofun
  unfold applyValue
  split
  · unfold applyFunction
    split
    · split
      · exact hrange
      · exact yields_error nofun
    · split
      · refine yields_ok (lacksOnly_table.mpr ⟨?_, ?_⟩)
        · exact List.forall_mem_map.mpr fun _ _ => trivial
        · exact List.forall_mem_map.mpr hg.named
      · exact yields_error nofun
  · exact yields_undefined hv
  · exact yields_error nofun

end ReleaseNotes.Template
