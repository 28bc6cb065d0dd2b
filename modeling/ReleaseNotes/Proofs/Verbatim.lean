import ReleaseNotes.Proofs.Sentence
import ReleaseNotes.Proofs.Undefined

/-!
# Filling in plain sentences

Checking a plain sentence and filling it in agree. The names that it asks for are the names in it
(`mem_askedNames_sentence`), so it passes its check just when all of them are available, and otherwise the fault lists
those that are not, in order. Filled in with texts, it is its own texts with those texts at the places of the names, as
they are, whatever they look like (`runAll_sentence`); and the first name without a text is what it fails with.
-/

namespace ReleaseNotes.Template

variable {before : List Char} {n : String} {own : Names} {outer : Scope} {inBranch : Bool}
  {parts : List SentencePart} {values : List (String × String)} {caller : Context} {frames : List Frame}

/-! ### Sorted names -/

theorem nodup_eraseDups (names : List String) : names.eraseDups.Nodup := by
  induction hl : names.length using Nat.strongRecOn generalizing names with
  | ind k ih =>
    cases names with
    | nil => simp
    | cons n names =>
      rw [List.eraseDups_cons, List.nodup_cons, List.mem_eraseDups]
      have hle := List.length_filter_le (fun m => !m == n) names
      exact ⟨by simp, ih _ (by rw [List.length_cons] at hl; omega) _ rfl⟩

/-- Sorted names stand in order, each once. -/
theorem pairwise_sortedNames (names : List String) : (sortedNames names).Pairwise (· < ·) := by
  have hle : (sortedNames names).Pairwise (· ≤ ·) := by
    refine (List.pairwise_mergeSort ?_ ?_ _).imp fun h => decide_eq_true_iff.mp h
    · intro a b c hab hbc
      exact decide_eq_true (String.le_trans (of_decide_eq_true hab) (of_decide_eq_true hbc))
    · intro a b
      simpa using String.le_total a b
  have hne : (sortedNames names).Pairwise (· ≠ ·) :=
    (List.mergeSort_perm _ _).nodup_iff.mpr (nodup_eraseDups names)
  exact (hle.and hne).imp fun ⟨hle, hne⟩ => String.not_le.mp fun h => hne (String.le_antisymm hle h)

/-! ### Names that a sentence asks for -/

theorem settleAll_sentence :
    settleAll outer inBranch own (statementsFrom before parts) = (namesIn parts).foldl (Names.use outer) own := by
  induction parts generalizing before own with
  | nil => rfl
  | cons part parts ih =>
    cases part with
    | text s => exact ih
    | name k n m => exact ih

theorem askedByAll_sentence : askedByAll outer (statementsFrom before parts) = [] := by
  induction parts generalizing before with
  | nil => rfl
  | cons part parts ih =>
    cases part with
    | text s => exact ih
    | name k n m => exact ih

theorem usedInAny_sentence : usedInAny n (statementsFrom before parts) ↔ n ∈ namesIn parts := by
  induction parts generalizing before with
  | nil => simp [statementsFrom, usedInAny, Statement.uses, namesIn]
  | cons part parts ih =>
    cases part with
    | text s => exact ih
    | name k m after =>
      rw [statementsFrom, usedInAny, usedInAny, Statement.uses, Statement.uses, Expr.names, Bool.false_or,
        Bool.or_eq_true, ih]
      simp [namesIn, SentencePart.name?]

theorem mem_keys_useAll {names : List String} :
    n ∈ (names.foldl (Names.use []) own).map Prod.fst ↔ n ∈ own.map Prod.fst ∨ n ∈ names := by
  induction names generalizing own with
  | nil => simp
  | cons m names ih =>
    rw [List.foldl_cons, ih, List.mem_cons, Names.use]
    split
    · rename_i hm
      have hm : m ∈ own.map Prod.fst := by simpa [Names.has_iff, Scope.has] using hm
      constructor
      · rintro (h | h)
        · exact .inl h
        · exact .inr (.inr h)
      · rintro (h | rfl | h)
        · exact .inl h
        · exact .inl hm
        · exact .inr h
    · simp [or_assoc]

theorem caller_of_useAll {names : List String} (h : ∀ e ∈ own, e.2 = .caller) :
    ∀ e ∈ names.foldl (Names.use []) own, e.2 = .caller := by
  induction names generalizing own with
  | nil => exact h
  | cons m names ih =>
    refine ih ?_
    rw [Names.use]
    split
    · exact h
    · intro e he
      rcases List.mem_append.mp he with he | he
      · exact h e he
      · rw [List.mem_singleton.mp he]

theorem templateNames_sentence (h : ∀ part ∈ parts, part.IsPlain) :
    templateNames (statementsFrom [] parts) = (namesIn parts).foldl (Names.use []) [] := by
  have hself : ¬ usedInAny selfName (statementsFrom [] parts) := by
    rw [usedInAny_sentence, namesIn, List.mem_filterMap]
    rintro ⟨part, hp, hn⟩
    cases part with
    | text s => cases hn
    | name k n m => exact (h _ hp).notSelf (Option.some.inj hn)
  rw [templateNames, if_neg hself, settleAll_sentence]

/-- The names that a sentence asks for are the names in it. -/
theorem mem_askedNames_sentence (h : ∀ part ∈ parts, part.IsPlain) :
    n ∈ askedNames (statementsFrom [] parts) ↔ n ∈ namesIn parts := by
  have hcaller : ∀ e ∈ (namesIn parts).foldl (Names.use []) [], e.2 = .caller :=
    caller_of_useAll (List.forall_mem_nil _)
  have hfilter := List.filter_eq_self.mpr fun e he => decide_eq_true (hcaller e he)
  have hasked : Names.asked ((namesIn parts).foldl (Names.use []) []) =
      ((namesIn parts).foldl (Names.use []) []).map Prod.fst := by
    rw [Names.asked]
    exact congrArg _ hfilter
  rw [askedNames, askedByAll_sentence, List.append_nil, templateNames_sentence h, hasked, mem_keys_useAll]
  simp

theorem not_mem_globalNames (h : ∀ part ∈ parts, part.IsPlain) (hn : n ∈ namesIn parts) : n ∉ globalNames := by
  obtain ⟨part, hp, hn⟩ := List.mem_filterMap.mp hn
  cases part with
  | text s => cases hn
  | name k m after =>
    obtain rfl := Option.some.inj hn
    exact (h _ hp).notGlobal

/-! ### Checking a sentence -/

/-- None of the names in a sentence is one of the language. -/
theorem mem_wantedNames_sentence (h : ∀ part ∈ parts, part.IsPlain) :
    n ∈ wantedNames (statementsFrom [] parts) ↔ n ∈ namesIn parts := by
  rw [wantedNames, List.mem_filter, mem_askedNames_sentence h]
  exact ⟨And.left, fun hn => ⟨hn, by simpa using not_mem_globalNames h hn⟩⟩

/-- The names in a sentence that are not available. -/
def lackingIn (available : List String) (parts : List SentencePart) : List String :=
  sortedNames ((wantedNames (statementsFrom [] parts)).filter fun n => !available.contains n)

theorem mem_lackingIn (h : ∀ part ∈ parts, part.IsPlain) (available : List String) :
    n ∈ lackingIn available parts ↔ n ∈ namesIn parts ∧ n ∉ available := by
  rw [lackingIn, mem_sortedNames, List.mem_filter, mem_wantedNames_sentence h]
  simp

theorem validate_sentence (h : ∀ part ∈ parts, part.IsPlain) (available : List String) :
    validate available (sentenceOf parts) =
      match lackingIn available parts with
      | [] => .ok ()
      | names => .error (.undeclared names (sortedNames available)) :=
  Language.validate_of_asked (parse_sentence h) (by rw [Parsed.ofStatements, accepted_sentence]; rfl)

/-! ### Filling a sentence in -/

/-- A name has no value in a table just if it is no key of it. -/
theorem lookup_eq_none_iff_not_mem {β : Type} {entries : List (String × β)} :
    entries.lookup n = none ↔ n ∉ entries.map Prod.fst := by
  rw [List.lookup_eq_none_iff]
  constructor
  · intro h hn
    obtain ⟨e, he, rfl⟩ := List.mem_map.mp hn
    simpa using h e he
  · intro h e he
    exact bne_iff_ne.mpr fun hn => h (List.mem_map.mpr ⟨e, he, hn.symm⟩)

/-- The texts that the caller gives to names, as values. -/
def contextOf (values : List (String × String)) : Context :=
  values.map fun e => (e.1, .plain e.2)

/-- A part with a text at the place of its name. -/
def filledWith (values : List (String × String)) : SentencePart → String
  | .text s => s
  | .name _ n _ => (values.lookup n).getD ""

theorem lookup_contextOf (values : List (String × String)) (n : String) :
    (contextOf values).lookup n = (values.lookup n).map .plain := by
  induction values with
  | nil => rfl
  | cons e values ih =>
    rw [contextOf, List.map_cons, List.lookup_cons, List.lookup_cons]
    cases n == e.1 with
    | true => rfl
    | false => exact ih

theorem value_contextOf (values : List (String × String)) (hn : n ∉ globalNames) :
    (contextOf values).value n = ((values.lookup n).map Value.plain).getD (missing n) := by
  rw [Context.value, lookup_contextOf]
  cases values.lookup n with
  | none => exact if_neg (by simpa using hn)
  | some s => rfl

/-- In the frame of a sentence every name in it has the value that the caller gives it. -/
theorem valueIn_sentence (caller : Context) (h : ∀ part ∈ parts, part.IsPlain) (given : Frame)
    (hn : n ∈ namesIn parts) :
    valueIn [enter caller [] given (templateNames (statementsFrom [] parts))] n = caller.value n := by
  have hcaller : ∀ e ∈ (namesIn parts).foldl (Names.use []) [], e.2 = .caller :=
    caller_of_useAll (List.forall_mem_nil _)
  have hkey : n ∈ ((namesIn parts).foldl (Names.use []) []).map Prod.fst := mem_keys_useAll.mpr (.inr hn)
  rw [templateNames_sentence h, valueIn_cons, lookup_enter]
  obtain ⟨e, he⟩ : ∃ e, ((namesIn parts).foldl (Names.use []) []).lookup n = some e :=
    Option.ne_none_iff_exists'.mp fun hnone => lookup_eq_none_iff_not_mem.mp hnone hkey
  obtain rfl : e = .caller := hcaller (n, e) (mem_of_lookup he)
  rw [he]
  rfl

theorem runAll_text (s : String) (rest : List Statement) :
    runAll caller frames (.text s :: rest) = (runAll caller frames rest).map fun r => (s ++ r.1, r.2) := by
  rw [runAll, Statement.run]
  change (runAll caller frames rest >>= fun r => Except.ok (s ++ r.1, r.2)) = _
  cases runAll caller frames rest <;> rfl

theorem runAll_name (n : String) (rest : List Statement) :
    runAll caller frames (.output (.name n) :: rest) =
      (valueIn frames n).written.bind fun s => (runAll caller frames rest).map fun r => (s ++ r.1, r.2) := by
  rw [runAll, Statement.run, Expr.value]
  cases hw : (valueIn frames n).written with
  | error fault =>
    change ((valueIn frames n).written >>= _) >>= _ = _
    rw [hw]
    rfl
  | ok s =>
    change ((valueIn frames n).written >>= _) >>= _ = _
    rw [hw]
    change (runAll caller frames rest >>= fun r => Except.ok (s ++ r.1, r.2)) = _
    cases runAll caller frames rest <;> rfl

/-- The names of a sentence are looked up one after the other. Its texts and the values that are found are written as
they are; the first name without a value ends it. -/
theorem runAll_sentence (caller : Context) (before : List Char) (hp : ∀ n ∈ namesIn parts, n ∉ globalNames)
    (hv : ∀ n ∈ namesIn parts, valueIn frames n = (contextOf values).value n) :
    runAll caller frames (statementsFrom before parts) =
      match (namesIn parts).find? fun n => (values.lookup n).isNone with
      | none => .ok (String.ofList before ++ String.join (parts.map (filledWith values)), frames)
      | some n => .error (.undefined (Text.quoted n ++ " is undefined")) := by
  induction parts generalizing before with
  | nil =>
    rw [statementsFrom, runAll_text]
    rfl
  | cons part parts ih =>
    cases part with
    | text s =>
      rw [statementsFrom, ih _ hp hv, List.map_cons, String.join_cons, String.ofList_append, String.ofList_toList,
        String.append_assoc]
      rfl
    | name k n m =>
      obtain ⟨hn, hp⟩ := List.forall_mem_cons.mp hp
      obtain ⟨hvn, hv⟩ := List.forall_mem_cons.mp hv
      rw [statementsFrom, runAll_text, runAll_name, hvn, value_contextOf values hn, ih [] hp hv]
      change _ = match (n :: namesIn parts).find? _ with | none => _ | some n => _
      rw [List.find?_cons]
      cases hl : values.lookup n with
      | none => rfl
      | some s =>
        cases hf : (namesIn parts).find? fun n => (values.lookup n).isNone with
        | some m => rfl
        | none =>
          simp only [Option.map_some, Option.getD_some, Value.plain, Value.written, Except.map, Except.bind]
          rw [List.map_cons, String.join_cons, filledWith, hl]
          rfl

theorem isSome_lookup_selfName (h : selfName ∉ values.map Prod.fst) :
    ((contextOf values).lookup selfName).isSome = false := by
  rw [lookup_contextOf, lookup_eq_none_iff_not_mem.mpr h]
  rfl

/-- Filling in a sentence gives its texts and those of its names, or fails at the first name without one. -/
theorem render_sentence (h : ∀ part ∈ parts, part.IsPlain) (hself : selfName ∉ values.map Prod.fst) :
    render (sentenceOf parts) (contextOf values) =
      match (namesIn parts).find? fun n => (values.lookup n).isNone with
      | none => .ok (String.join (parts.map (filledWith values)))
      | some n => .error (.undefined (Text.quoted n ++ " is undefined")) := by
  have hrun := runAll_sentence (contextOf values) [] (fun n hn => not_mem_globalNames h hn)
    fun n hn => valueIn_sentence (contextOf values) h [(selfName, .function selfName)] hn
  rw [render, Language.render, parse_sentence h, ok_bind, Parsed.ofStatements, accepted_sentence]
  dsimp only
  rw [ok_bind, runTemplate, isSome_lookup_selfName hself, if_neg Bool.false_ne_true]
  dsimp only
  rw [hrun]
  cases (namesIn parts).find? fun n => (values.lookup n).isNone with
  | some n => rfl
  | none => rfl

/-- A sentence passes its check if all names in it are available, and is otherwise refused with those that are not. -/
theorem validate_sentence_cases (h : ∀ part ∈ parts, part.IsPlain) (available : List String) :
    (validate available (sentenceOf parts) = .ok () ∧ ∀ n ∈ namesIn parts, n ∈ available) ∨
      ∃ lacking, validate available (sentenceOf parts) = .error (.undeclared lacking (sortedNames available)) ∧
        lacking.Pairwise (· < ·) ∧ (∀ n, n ∈ lacking ↔ n ∈ namesIn parts ∧ n ∉ available) ∧
        ∃ n ∈ namesIn parts, n ∉ available := by
  have hlacking := fun n => mem_lackingIn (n := n) h available
  have hsorted : (lackingIn available parts).Pairwise (· < ·) := pairwise_sortedNames _
  rw [validate_sentence h]
  cases hm : lackingIn available parts with
  | nil =>
    refine .inl ⟨rfl, fun n hn => ?_⟩
    by_contra ha
    have hn := (hlacking n).mpr ⟨hn, ha⟩
    rw [hm] at hn
    cases hn
  | cons n names =>
    rw [hm] at hlacking hsorted
    exact .inr ⟨n :: names, rfl, hsorted, hlacking, n, (hlacking n).mp (.head _)⟩

/-- A sentence is filled in if all names in it have texts, and otherwise fails with one that has none. -/
theorem render_sentence_cases (h : ∀ part ∈ parts, part.IsPlain) (hself : selfName ∉ values.map Prod.fst) :
    (render (sentenceOf parts) (contextOf values) = .ok (String.join (parts.map (filledWith values))) ∧
        ∀ n ∈ namesIn parts, n ∈ values.map Prod.fst) ∨
      ∃ n ∈ namesIn parts, n ∉ values.map Prod.fst ∧
        render (sentenceOf parts) (contextOf values) = .error (.undefined (Text.quoted n ++ " is undefined")) := by
  rw [render_sentence h hself]
  cases hf : (namesIn parts).find? fun n => (values.lookup n).isNone with
  | none =>
    refine .inl ⟨rfl, fun n hn => ?_⟩
    by_contra hv
    exact List.find?_eq_none.mp hf n hn (Option.isNone_iff_eq_none.mpr (lookup_eq_none_iff_not_mem.mpr hv))
  | some n =>
    have hv : (values.lookup n).isNone := List.find?_some (p := fun n => (values.lookup n).isNone) hf
    exact .inr ⟨n, List.mem_of_find?_eq_some hf,
      lookup_eq_none_iff_not_mem.mp (Option.isNone_iff_eq_none.mp hv), rfl⟩

/-- A plain sentence passes its check just when all the names in it are available, and is otherwise refused with a list
of those that are not, in order. It can be filled in just when all the names in it have texts, which then stand in it
as they are, and otherwise fails with a name that has none. -/
theorem sentence_is_checked_and_filled (h : ∀ part ∈ parts, part.IsPlain) :
    (∀ available,
      (validate available (sentenceOf parts) = .ok () ↔ ∀ n ∈ namesIn parts, n ∈ available) ∧
      (¬ (∀ n ∈ namesIn parts, n ∈ available) →
        ∃ lacking, validate available (sentenceOf parts) = .error (.undeclared lacking (sortedNames available)) ∧
          (∀ label, (Fault.undeclared lacking (sortedNames available)).message label =
            label ++ " uses undefined variables: " ++ ", ".intercalate lacking ++ ". Available variables: " ++
              ", ".intercalate (sortedNames available)) ∧
          lacking.Pairwise (· < ·) ∧ ∀ n, n ∈ lacking ↔ n ∈ namesIn parts ∧ n ∉ available)) ∧
    ∀ values : List (String × String), selfName ∉ values.map Prod.fst →
      (render (sentenceOf parts) (contextOf values) = .ok (String.join (parts.map (filledWith values))) ↔
        ∀ n ∈ namesIn parts, n ∈ values.map Prod.fst) ∧
      (¬ (∀ n ∈ namesIn parts, n ∈ values.map Prod.fst) →
        ∃ n ∈ namesIn parts, n ∉ values.map Prod.fst ∧
          render (sentenceOf parts) (contextOf values) = .error (.undefined (Text.quoted n ++ " is undefined"))) := by
  refine ⟨fun available => ?_, fun values hself => ?_⟩
  · rcases validate_sentence_cases h available with ⟨hok, hall⟩ | ⟨lacking, he, hsorted, hl, n, hn, ha⟩
    · exact ⟨⟨fun _ => hall, fun _ => hok⟩, fun hnot => absurd hall hnot⟩
    · refine ⟨⟨fun hok => ?_, fun hall => absurd (hall n hn) ha⟩, fun _ => ⟨lacking, he, fun _ => rfl, hsorted, hl⟩⟩
      rw [he] at hok
      cases hok
  · rcases render_sentence_cases h hself with ⟨hok, hall⟩ | ⟨n, hn, hv, he⟩
    · exact ⟨⟨fun _ => hall, fun _ => hok⟩, fun hnot => absurd hall hnot⟩
    · refine ⟨⟨fun hok => ?_, fun hall => absurd (hall n hn) hv⟩, fun _ => ⟨n, hn, hv, he⟩⟩
      rw [he] at hok
      cases hok

/-- A sentence with two names. -/
def greeting : List SentencePart :=
  [.text "Dear ", .name 1 "who" 1, .text ", see \x7d\x7d", .name 0 "where_2" 3]

/-- A sentence can be filled in with texts that look like templates and like markup. Without the second text it fails,
and where neither name is available it does not pass its check. -/
theorem greeting_is_checked_and_filled :
    (∀ part ∈ greeting, part.IsPlain) ∧
    render (sentenceOf greeting) (contextOf [("who", "\x7b\x7b who \x7d\x7d"), ("where_2", "<b>\x7b% if")]) =
      .ok "Dear \x7b\x7b who \x7d\x7d, see \x7d\x7d<b>\x7b% if" ∧
    (∃ n ∈ namesIn greeting, n ∉ ["who"] ∧
      render (sentenceOf greeting) (contextOf [("who", "you")]) =
        .error (.undefined (Text.quoted n ++ " is undefined"))) ∧
    validate [] (sentenceOf greeting) ≠ .ok () := by
  have hplain : ∀ part ∈ greeting, part.IsPlain := by
    have hwho : IsPlainName "who" :=
      ⟨⟨'w', ['h', 'o'], by decide, by decide, by decide⟩, by decide, by decide, by decide⟩
    have hwhere : IsPlainName "where_2" :=
      ⟨⟨'w', ['h', 'e', 'r', 'e', '_', '2'], by decide, by decide, by decide⟩, by decide, by decide, by decide⟩
    simp [greeting, SentencePart.IsPlain, hwho, hwhere]
  obtain ⟨hcheck, hfill⟩ := sentence_is_checked_and_filled hplain
  refine ⟨hplain, ?_, ?_, ?_⟩
  · have hok := (hfill [("who", "\x7b\x7b who \x7d\x7d"), ("where_2", "<b>\x7b% if")] (by decide)).1.mpr (by decide)
    rw [hok]
    decide
  · exact (hfill [("who", "you")] (by decide)).2 (by decide)
  · exact fun hok => absurd ((hcheck []).1.mp hok) (by decide)

end ReleaseNotes.Template
