import ReleaseNotes.Proofs.Evaluation
import ReleaseNotes.Proofs.Naming

/-!
# What is undefined in a template

Names are settled before anything of a frame is carried out, so a loop may use a name that only a statement after
the loop gives a value to (`Statement.ReadsEarly`). All other names have values where they are used, if the caller
gives those that are asked for. So if putting values into statements fails because something is undefined, a name
is read early, or an expression may lack something although its names have values (`yields_run`).
-/

namespace ReleaseNotes.Template

variable {P : String → Prop} {caller : Context} {frames : List Frame} {outer scope : Scope} {own : List String}
  {unset : String → Bool} {n : String} {v : Value}

/-! ### Lookups -/

mutual

/-- A statement whose names all have values may come to something that is absent for a reason. -/
def Statement.MayLack (reason : String) : Statement → Prop
  | .text _ => False
  | .output e => e.MayLack reason
  | .branch test body otherwise =>
    test.MayLack reason ∨ someStatementMayLack reason body ∨ someStatementMayLack reason otherwise
  | .loop _ source test? body otherwise =>
    source.MayLack reason ∨ (∃ test, test? = some test ∧ test.MayLack reason) ∨
      someStatementMayLack reason body ∨ someStatementMayLack reason otherwise
  | .assign _ e => e.MayLack reason

/-- Some of a list of statements may come to something that is absent for a reason. -/
def someStatementMayLack (reason : String) : List Statement → Prop
  | [] => False
  | s :: rest => s.MayLack reason ∨ someStatementMayLack reason rest

end

/-! ### Names that have no value yet -/

/-- Whether a frame is entered without a value for a name. `isUnset` says whether the name has none around it. -/
def Names.leavesUnset (own : Names) (n : String) (isUnset : Bool) : Bool :=
  match own.lookup n with
  | some .given | some .caller => false
  | some .around | none => isUnset
  | some .nowhere => true

/-- Whether a statement gives a value to a name whenever it is carried out. -/
def Statement.gives (n : String) : Statement → Bool
  | .assign target _ => target.names.contains n
  | _ => false

mutual

/-- A statement may use a name that has no value yet. `isUnset` says whether the name has none before the
statement, and the scope holds the names of the frames that are open. -/
def Statement.ReadsEarly (n : String) (scope : Scope) (isUnset : Bool) : Statement → Prop
  | .text _ => False
  | .output e => isUnset ∧ n ∈ e.names
  | .branch test body otherwise =>
    (isUnset ∧ n ∈ test.names) ∨ someReadsEarly n scope isUnset body ∨ someReadsEarly n scope isUnset otherwise
  | .loop target source test? body otherwise =>
    let inner := bodyNames scope target body
    let other := settleAll scope false [] otherwise
    (isUnset ∧ n ∈ source.names) ∨
      (∃ test, test? = some test ∧ (testNames scope target test).leavesUnset n isUnset ∧ n ∈ test.names) ∨
      someReadsEarly n (inner.map Prod.fst :: scope) (inner.leavesUnset n isUnset) body ∨
      someReadsEarly n (other.map Prod.fst :: scope) (other.leavesUnset n isUnset) otherwise
  | .assign _ e => isUnset ∧ n ∈ e.names

/-- Some of a list of statements may use a name that has no value yet. -/
def someReadsEarly (n : String) (scope : Scope) (isUnset : Bool) : List Statement → Prop
  | [] => False
  | s :: rest => s.ReadsEarly n scope isUnset ∨ someReadsEarly n scope (isUnset && !s.gives n) rest

end

/-! ### Frames -/

theorem valueIn_cons (frame : Frame) (frames : List Frame) (n : String) :
    valueIn (frame :: frames) n = (frame.lookup n).getD (valueIn frames n) := by
  rw [valueIn, List.findSome?_cons]
  cases frame.lookup n <;> rfl

theorem exists_lookup_of_mem_keys {frame : Frame} (h : n ∈ frame.map Prod.fst) : ∃ v, frame.lookup n = some v := by
  rw [← Option.isSome_iff_exists, ← Option.ne_none_iff_isSome, ne_eq, List.lookup_eq_none_iff]
  obtain ⟨e, he, rfl⟩ := List.mem_map.mp h
  intro hno
  simpa using hno e he

/-- In the open frames every name has a value that lacks something only for some reasons, except that it may have
none yet if it is unset. -/
structure Sees (P : String → Prop) (unset : String → Bool) (scope : Scope) (frames : List Frame) : Prop where
  keys : frames.map (·.map Prod.fst) = scope
  value (n : String) (h : scope.has n) :
    (valueIn frames n).LacksOnly P ∨ unset n ∧ valueIn frames n = missing n

theorem Sees.mono {unset' : String → Bool} (h : Sees P unset scope frames) (hu : ∀ n, unset n → unset' n) :
    Sees P unset' scope frames :=
  ⟨h.keys, fun n hn => (h.value n hn).imp_right fun ⟨hn, he⟩ => ⟨hu n hn, he⟩⟩

theorem Sees.unchanged {s : Statement} (h : Sees P unset scope frames) (hs : ∀ n, s.gives n = false) :
    Sees P (fun n => unset n && !s.gives n) scope frames :=
  h.mono fun n hn => by simpa [hs n] using hn

/-- An expression whose names are seen has values for them, if none of them is missing. -/
theorem Sees.isCovered {e : Expr} (h : Sees P unset scope frames) (hn : ∀ n ∈ e.names, scope.has n)
    (hu : ∀ n ∈ e.names, unset n → (missing n).LacksOnly P) (hl : ∀ reason, e.MayLack reason → P reason) :
    e.IsCovered P frames where
  names n hm := by
    rcases h.value n (hn n hm) with hv | ⟨hun, he⟩
    · exact hv
    · rw [he]
      exact hu n hm hun
  lacks := hl

/-- The first value of a name of a frame. -/
def firstValue (caller : Context) (frames : List Frame) (given : Frame) (n : String) : Origin → Value
  | .given => (given.lookup n).getD (missing n)
  | .around => valueIn frames n
  | .caller => caller.value n
  | .nowhere => missing n

theorem lookup_enter (caller : Context) (frames : List Frame) (given : Frame) (own : Names) (n : String) :
    (enter caller frames given own).lookup n = (own.lookup n).map (firstValue caller frames given n) := by
  induction own with
  | nil => rfl
  | cons e own ih =>
    obtain ⟨m, origin⟩ := e
    rw [enter, List.map_cons, List.lookup_cons, List.lookup_cons]
    by_cases h : n = m
    · subst h
      simp only [beq_self_eq_true]
      cases origin <;> rfl
    · rw [beq_false_of_ne h]
      exact ih

theorem keys_enter (caller : Context) (frames : List Frame) (given : Frame) (own : Names) :
    (enter caller frames given own).map Prod.fst = own.map Prod.fst := by
  rw [enter, List.map_map]
  rfl

/-- A frame that is entered with values for the names that are given, and for which the caller has the names that
are asked for, is seen. -/
theorem Sees.enter {start settled : Names} {given : Frame} (h : Sees P unset scope frames)
    (hs : Names.Settles scope start settled)
    (hg : ∀ e ∈ start, e.2 = .given ∧ ∃ v, given.lookup e.1 = some v ∧ v.LacksOnly P)
    (ha : ∀ n ∈ settled.asked, (caller.value n).LacksOnly P) :
    Sees P (fun n => settled.leavesUnset n (unset n)) (settled.map Prod.fst :: scope)
      (enter caller frames given settled :: frames) where
  keys := by rw [List.map_cons, keys_enter, h.keys]
  value n hn := by
    rw [valueIn_cons, lookup_enter, Names.leavesUnset]
    cases hl : settled.lookup n with
    | none =>
      refine h.value n (((Scope.has_cons _).mp hn).resolve_left fun hm => ?_)
      obtain ⟨e, he, rfl⟩ := List.mem_map.mp hm
      simpa using List.lookup_eq_none_iff.mp hl e he
    | some origin =>
      have hmem := mem_of_lookup hl
      cases origin with
      | given =>
        obtain ⟨-, v, hv, hgood⟩ := hg _ ((hs.isNew hmem).resolve_right fun hnew => hnew.2 rfl)
        exact .inl (by simpa [firstValue, hv] using hgood)
      | around =>
        have hnew := (hs.isNew hmem).resolve_left fun hstart => by cases (hg _ hstart).1
        exact h.value n (hnew.1 rfl)
      | caller =>
        exact .inl (ha n (List.mem_map.mpr ⟨_, List.mem_filter.mpr ⟨hmem, rfl⟩, rfl⟩))
      | nowhere => exact .inr ⟨rfl, rfl⟩

theorem given_of_keys {names : List String} {given : Frame} (hn : names ⊆ given.map Prod.fst)
    (hg : ∀ e ∈ given, e.2.LacksOnly P) :
    ∀ e ∈ names.map fun n => (n, Origin.given), e.2 = .given ∧ ∃ v, given.lookup e.1 = some v ∧ v.LacksOnly P := by
  intro e he
  obtain ⟨n, hm, rfl⟩ := List.mem_map.mp he
  obtain ⟨v, hv⟩ := exists_lookup_of_mem_keys (hn hm)
  exact ⟨rfl, v, hv, hg _ (mem_of_lookup hv)⟩

/-! ### Values given to names -/

theorem keys_giveValue (m : String) (v : Value) (frames : List Frame) :
    (giveValue m v frames).map (·.map Prod.fst) = frames.map (·.map Prod.fst) := by
  cases frames with
  | nil => rfl
  | cons frame frames =>
    rw [giveValue, List.map_cons, List.map_cons, List.map_map]
    congr 1
    refine List.map_congr_left fun e _ => ?_
    dsimp only [Function.comp_apply]
    split
    · next h => exact (eq_of_beq h).symm
    · rfl

theorem lookup_giveValue (m n : String) (v : Value) (frame : Frame) :
    (frame.map fun e => if e.1 == m then (m, v) else e).lookup n =
      (frame.lookup n).map fun w => if n = m then v else w := by
  induction frame with
  | nil => rfl
  | cons e frame ih =>
    have hkey : (if e.1 == m then (m, v) else e).1 = e.1 := by
      split
      · next h => exact (eq_of_beq h).symm
      · rfl
    rw [List.map_cons, List.lookup_cons, List.lookup_cons, ih, hkey]
    cases hn : n == e.1 with
    | false => rfl
    | true =>
      obtain rfl := eq_of_beq hn
      by_cases he : e.1 = m <;> simp [he]

theorem Sees.give (h : Sees P unset (own :: outer) frames) (hm : n ∈ own) (hv : v.LacksOnly P) :
    Sees P (fun m => unset m && m != n) (own :: outer) (giveValue n v frames) where
  keys := by rw [keys_giveValue, h.keys]
  value m hs := by
    obtain _ | ⟨frame, frames⟩ := frames
    · cases h.keys
    · rw [giveValue, valueIn_cons, lookup_giveValue]
      have hvalue := h.value m hs
      rw [valueIn_cons] at hvalue
      by_cases hmn : m = n
      · subst hmn
        obtain ⟨w, hw⟩ := exists_lookup_of_mem_keys ((List.cons.inj h.keys).1 ▸ hm)
        rw [hw]
        exact .inl (by simpa using hv)
      · cases hl : frame.lookup m <;> simpa [hl, hmn] using hvalue

/-- Values are given to several names of the innermost frame. -/
theorem Sees.giveAll {given : Frame} (h : Sees P unset (own :: outer) frames) (hg : given.map Prod.fst ⊆ own)
    (hv : ∀ e ∈ given, e.2.LacksOnly P) :
    Sees P (fun m => unset m && !(given.map Prod.fst).contains m) (own :: outer)
      (given.foldl (fun frames e => giveValue e.1 e.2 frames) frames) := by
  induction given generalizing frames unset with
  | nil => exact h.mono fun m hm => by simpa using hm
  | cons e given ih =>
    obtain ⟨hfirst, hv⟩ := List.forall_mem_cons.mp hv
    obtain ⟨hm, hg⟩ := List.cons_subset.mp hg
    rw [List.foldl_cons]
    refine (ih (h.give hm hfirst) hg hv).mono fun m hm => ?_
    simp_all

mutual

theorem yields_bind : ∀ (t : Target) (v : Value), v.LacksOnly P →
    Yields P (fun given => given.map Prod.fst = t.names ∧ ∀ e ∈ given, e.2.LacksOnly P) (t.bind v)
  | .name n, v, h => yields_ok ⟨rfl, by simpa using h⟩
  | .several targets, v, h => by
    rw [Target.bind]
    exact (yields_items h).bind fun items hi => yields_bindAll targets items hi

theorem yields_bindAll : ∀ (ts : List Target) (items : List Value), EachLacksOnly P items →
    Yields P (fun given => given.map Prod.fst = namesOfTargets ts ∧ ∀ e ∈ given, e.2.LacksOnly P) (bindAll items ts)
  | [], [], _ => yields_ok ⟨rfl, List.forall_mem_nil _⟩
  | t :: ts, v :: items, h => by
    obtain ⟨hv, h⟩ := List.forall_mem_cons.mp h
    rw [bindAll]
    refine (yields_bind t v hv).bind fun first hfirst => ?_
    refine (yields_bindAll ts items h).bind fun others hothers => yields_ok ⟨?_, ?_⟩
    · rw [List.map_append, hfirst.1, hothers.1, namesOfTargets]
    · exact List.forall_mem_append.mpr ⟨hfirst.2, hothers.2⟩
  | [], _ :: _, _ | _ :: _, [], _ => by
    rw [bindAll.eq_def]
    exact yields_error nofun

end

/-! ### Running -/

/-- What a statement may lack, it lacks for one of some reasons: its names fit the frame that it stands in, the
caller has those that are asked for inside of it, and the names that it reads early and the lookups in it are
missing for one of the reasons. -/
structure Statement.IsCovered (P : String → Prop) (caller : Context) (unset : String → Bool) (outer : Scope)
    (own : List String) (s : Statement) : Prop where
  fits : s.Fits outer own
  asked (n : String) (h : n ∈ s.asked (own :: outer)) : (caller.value n).LacksOnly P
  early (n : String) (h : s.ReadsEarly n (own :: outer) (unset n)) : (missing n).LacksOnly P
  lacks (reason : String) (h : s.MayLack reason) : P reason

/-- What some statements may lack, they lack for one of some reasons. -/
structure AllCovered (P : String → Prop) (caller : Context) (unset : String → Bool) (outer : Scope)
    (own : List String) (body : List Statement) : Prop where
  fits : AllFit outer own body
  asked (n : String) (h : n ∈ askedByAll (own :: outer) body) : (caller.value n).LacksOnly P
  early (n : String) (h : someReadsEarly n (own :: outer) (unset n) body) : (missing n).LacksOnly P
  lacks (reason : String) (h : someStatementMayLack reason body) : P reason

section

variable {s : Statement} {rest first second : List Statement} {target : Target} {source test : Expr}
  {test? : Option Expr}

theorem AllCovered.head (h : AllCovered P caller unset outer own (s :: rest)) :
    s.IsCovered P caller unset outer own :=
  ⟨h.fits.1, fun n hn => h.asked n (List.mem_append_left _ hn), fun n hn => h.early n (.inl hn),
    fun reason hr => h.lacks reason (.inl hr)⟩

theorem AllCovered.tail (h : AllCovered P caller unset outer own (s :: rest)) :
    AllCovered P caller (fun n => unset n && !s.gives n) outer own rest :=
  ⟨h.fits.2, fun n hn => h.asked n (List.mem_append_right _ hn), fun n hn => h.early n (.inr hn),
    fun reason hr => h.lacks reason (.inr hr)⟩

theorem Statement.IsCovered.body (h : (Statement.branch test first second).IsCovered P caller unset outer own) :
    AllCovered P caller unset outer own first :=
  ⟨h.fits.2.1, fun n hn => h.asked n (List.mem_append_left _ hn), fun n hn => h.early n (.inr (.inl hn)),
    fun reason hr => h.lacks reason (.inr (.inl hr))⟩

theorem Statement.IsCovered.otherwise
    (h : (Statement.branch test first second).IsCovered P caller unset outer own) :
    AllCovered P caller unset outer own second :=
  ⟨h.fits.2.2, fun n hn => h.asked n (List.mem_append_right _ hn), fun n hn => h.early n (.inr (.inr hn)),
    fun reason hr => h.lacks reason (.inr (.inr hr))⟩

theorem Statement.IsCovered.turn (h : (Statement.loop target source test? first second).IsCovered P caller unset
    outer own) : AllCovered P caller (fun n => (bodyNames (own :: outer) target first).leavesUnset n (unset n))
      (own :: outer) ((bodyNames (own :: outer) target first).map Prod.fst) first where
  fits := allFit_of_settleAll first false (turnNames target first) (List.Subset.refl _)
  asked n hn := h.asked n (by simp [Statement.asked, hn])
  early n hn := h.early n (.inr (.inr (.inl hn)))
  lacks reason hr := h.lacks reason (.inr (.inr (.inl hr)))

theorem Statement.IsCovered.idle (h : (Statement.loop target source test? first second).IsCovered P caller unset
    outer own) : AllCovered P caller (fun n => (settleAll (own :: outer) false [] second).leavesUnset n (unset n))
      (own :: outer) ((settleAll (own :: outer) false [] second).map Prod.fst) second where
  fits := allFit_of_settleAll second false [] (List.Subset.refl _)
  asked n hn := h.asked n (by simp [Statement.asked, hn])
  early n hn := h.early n (.inr (.inr (.inr hn)))
  lacks reason hr := h.lacks reason (.inr (.inr (.inr hr)))

/-- The test of a loop has values for its names in the frame in which it is made. -/
theorem Statement.IsCovered.tested {given : Frame}
    (h : (Statement.loop target source (some test) first second).IsCovered P caller unset outer own)
    (hs : Sees P unset (own :: outer) frames) (hk : given.map Prod.fst = target.names)
    (hg : ∀ e ∈ given, e.2.LacksOnly P) :
    test.IsCovered P (enter caller frames given (testNames (own :: outer) target test) :: frames) := by
  have hkeys : target.names ⊆ given.map Prod.fst := hk ▸ List.Subset.refl _
  have hasked : ∀ n ∈ (testNames (own :: outer) target test).asked, (caller.value n).LacksOnly P :=
    fun n hn => h.asked n (by simp [Statement.asked, hn])
  refine (hs.enter (settles_useAll test.names _) (given_of_keys hkeys hg) hasked).isCovered ?_ ?_ ?_
  · exact has_of_useAll (List.Subset.refl _)
  · exact fun n hn hu => h.early n (.inr (.inl ⟨test, rfl, hu, hn⟩))
  · exact fun reason hr => h.lacks reason (.inr (.inl ⟨test, rfl, hr⟩))

theorem yields_passing {values : List Value}
    (h : (Statement.loop target source (some test) first second).IsCovered P caller unset outer own)
    (hs : Sees P unset (own :: outer) frames) (hv : EachLacksOnly P values) :
    Yields P (EachLacksOnly P) (passing caller frames target test values) := by
  induction values with
  | nil => exact yields_ok (List.forall_mem_nil _)
  | cons v values ih =>
    obtain ⟨hv, hvalues⟩ := List.forall_mem_cons.mp hv
    rw [passing]
    refine (yields_bind target v hv).bind fun given hgiven => ?_
    rw [hs.keys]
    refine (yields_value test (h.tested hs hgiven.1 hgiven.2)).bind fun tested ht => ?_
    refine (yields_isTrue ht).bind fun passes _ => (ih hvalues).bind fun others hothers => yields_ok ?_
    split
    · exact List.forall_mem_cons.mpr ⟨hv, hothers⟩
    · exact hothers

theorem yields_passingAll {values : List Value}
    (h : (Statement.loop target source test? first second).IsCovered P caller unset outer own)
    (hs : Sees P unset (own :: outer) frames) (hv : EachLacksOnly P values) :
    Yields P (EachLacksOnly P) (passingAll caller frames target test? values) := by
  cases test? with
  | none => exact yields_ok hv
  | some test => exact yields_passing h hs hv

/-- A turn of a loop is entered with a frame that is seen. -/
theorem yields_enterTurn {values : List Value}
    (h : (Statement.loop target source test? first second).IsCovered P caller unset outer own)
    (hs : Sees P unset (own :: outer) frames) (hv : EachLacksOnly P values) (index : Nat) (hmem : v.LacksOnly P) :
    Yields P (fun frame => Sees P (fun n => (bodyNames (own :: outer) target first).leavesUnset n (unset n))
      ((bodyNames (own :: outer) target first).map Prod.fst :: own :: outer) (frame :: frames))
      (enterTurn caller frames target first index values v) := by
  rw [enterTurn]
  refine (yields_bind target v hmem).bind fun given hgiven => yields_ok ?_
  rw [hs.keys]
  refine hs.enter (settles_settleAll first false _) (given_of_keys ?_ ?_) fun n hn => h.asked n ?_
  · rw [List.map_cons, hgiven.1]
    split
    · exact List.Subset.refl _
    · exact List.subset_cons_self _ _
  · exact List.forall_mem_cons.mpr ⟨lacksOnly_turn.mpr hv, hgiven.2⟩
  · simp [Statement.asked, hn]

end

mutual

/-- What a statement does: it fails for one of the reasons if something is undefined, and the frames stay seen. -/
theorem yields_run : ∀ (s : Statement) {frames : List Frame} {outer : Scope} {own : List String}
    {unset : String → Bool}, s.IsCovered P caller unset outer own → Sees P unset (own :: outer) frames →
    Yields P (fun r => Sees P (fun n => unset n && !s.gives n) (own :: outer) r.2) (s.run caller frames)
  | .text _, _, _, _, _, _, hs => yields_ok (hs.unchanged fun _ => rfl)
  | .output e, _, _, _, _, h, hs => by
    rw [Statement.run]
    have he := hs.isCovered h.fits (fun n hn hu => h.early n ⟨hu, hn⟩) h.lacks
    refine (yields_value e he).bind fun v hv => (yields_written hv).bind fun _ _ => ?_
    exact yields_ok (hs.unchanged fun _ => rfl)
  | .branch test first second, _, _, _, _, h, hs => by
    rw [Statement.run]
    have ht := hs.isCovered h.fits.1 (fun n hn hu => h.early n (.inl ⟨hu, hn⟩)) fun r hr => h.lacks r (.inl hr)
    refine (yields_value test ht).bind fun tested htested => (yields_isTrue htested).bind fun isTrue _ => ?_
    split
    · exact (yields_runAll first h.body hs).mono fun _ hs => hs.unchanged fun _ => rfl
    · exact (yields_runAll second h.otherwise hs).mono fun _ hs => hs.unchanged fun _ => rfl
  | .loop target source test? first second, _, _, _, _, h, hs => by
    rw [Statement.run]
    have hsource := hs.isCovered h.fits (fun n hn hu => h.early n (.inl ⟨hu, hn⟩)) fun r hr => h.lacks r (.inl hr)
    refine (yields_value source hsource).bind fun v hv => (yields_items hv).bind fun values hvalues => ?_
    refine (yields_passingAll h hs hvalues).bind fun values hvalues => ?_
    split
    · rw [hs.keys]
      refine (yields_runAll second h.idle (hs.enter (settles_settleAll second false []) (List.forall_mem_nil _)
        fun n hn => h.asked n ?_)).bind fun _ _ => yields_ok (hs.unchanged fun _ => rfl)
      simp [Statement.asked, hn]
    · refine (Yields.mapM (Q := fun _ => True) fun e he => ?_).bind fun _ _ => yields_ok (hs.unchanged fun _ => rfl)
      have hvalue := hvalues e.1 (List.fst_mem_of_mem_zipIdx he)
      refine (yields_enterTurn h hs hvalues e.2 hvalue).bind fun frame hframe => ?_
      exact (yields_runAll first h.turn hframe).bind fun _ _ => yields_ok trivial
  | .assign target e, _, _, _, _, h, hs => by
    rw [Statement.run]
    have he := hs.isCovered h.fits.1 (fun n hn hu => h.early n ⟨hu, hn⟩) h.lacks
    refine (yields_value e he).bind fun v hv => (yields_bind target v hv).bind fun given hgiven => yields_ok ?_
    refine (hs.giveAll (hgiven.1 ▸ h.fits.2) hgiven.2).mono fun n hn => ?_
    rwa [hgiven.1] at hn

theorem yields_runAll : ∀ (body : List Statement) {frames : List Frame} {outer : Scope} {own : List String}
    {unset : String → Bool}, AllCovered P caller unset outer own body → Sees P unset (own :: outer) frames →
    Yields P (fun r => Sees P unset (own :: outer) r.2) (runAll caller frames body)
  | [], _, _, _, _, _, hs => yields_ok hs
  | s :: rest, _, _, _, _, h, hs => by
    rw [runAll]
    refine (yields_run s h.head hs).bind fun r hr => (yields_runAll rest h.tail hr).bind fun _ hrest => ?_
    exact yields_ok (hrest.mono fun n hn => (Bool.and_eq_true _ _ ▸ hn).1)

end

end ReleaseNotes.Template
