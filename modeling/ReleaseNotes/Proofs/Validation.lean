import ReleaseNotes.Proofs.Demands
import ReleaseNotes.Proofs.Dependence
import ReleaseNotes.Proofs.Fixed
import ReleaseNotes.Settings.Read

/-!
# Templates that have been checked

Where templates are set up, every name that is found in a template must be available. So whatever the language of
the templates is, and whatever the product, the releases and the branch are called, an accepted template comes to the
same with any further names (`accepted_needs_no_more`). What a value has is not checked when templates are set up
(`accepted_lookupWording_fails`).

In the core of the language it is known what else may be undefined (`undefined_in_accepted`): a sentence whose
template has been accepted fails because something is undefined only if the template looks something up that is not
there, uses the value of a choice that is not made and has no alternative, or reads a name early.
-/

namespace ReleaseNotes.Template

variable {P : String → Prop} {caller : Context}

/-! ### Templates -/

/-- A template may use a name that has no value yet. -/
def readsEarly (n : String) (found : List Statement) : Prop :=
  someReadsEarly n [(templateNames found).map Prod.fst] ((templateNames found).leavesUnset n false) found

/-- The reasons for which something may be undefined in a template although the caller gives the names that are
asked for. -/
def MayBeUndefined (found : List Statement) (reason : String) : Prop :=
  someStatementMayLack reason found ∨ ∃ n, readsEarly n found ∧ reason = Text.quoted n ++ " is undefined"

/-- Whatever the caller gives to the names that are asked for, what a template does fails for one of these reasons
if something is undefined. -/
theorem yields_runAll_template {found : List Statement}
    (ha : ∀ n ∈ askedNames found, (caller.value n).LacksOnly (MayBeUndefined found)) :
    Yields (MayBeUndefined found) (fun _ => True)
      (runAll caller [enter caller [] [(selfName, .function selfName)] (templateNames found)] found) := by
  have hsees : Sees (MayBeUndefined found) (fun _ => false) [] [] := ⟨rfl, nofun⟩
  have hstart : ∀ e ∈ if usedInAny selfName found then [(selfName, Origin.given)] else [], e.2 = .given ∧
      ∃ v, List.lookup e.1 [(selfName, Value.function selfName)] = some v ∧ v.LacksOnly (MayBeUndefined found) := by
    intro e he
    split at he
    · rw [List.mem_singleton.mp he]
      exact ⟨rfl, _, rfl, trivial⟩
    · cases he
  have hframe := hsees.enter (settles_settleAll found false _) hstart fun n hn => ha n (List.mem_append_left _ hn)
  have hcovered : AllCovered (MayBeUndefined found) caller (fun n => (templateNames found).leavesUnset n false) []
      ((templateNames found).map Prod.fst) found :=
    { fits := allFit_of_settleAll found false _ (List.Subset.refl _)
      asked := fun n hn => ha n (List.mem_append_right _ hn)
      early := fun n hn => .inr ⟨n, hn, rfl⟩
      lacks := fun reason hr => .inl hr }
  exact (yields_runAll found hcovered hframe).mono fun _ _ => trivial

/-- A template that may use the available names asks for these and for those of the language only. -/
theorem asked_of_validate {available : List String} {template : String}
    (h : validate available template = .ok ()) :
    ∃ found, statements template = .ok found ∧ accepted found = .ok found ∧
      ∀ n ∈ askedNames found, n ∈ globalNames ∨ n ∈ available := by
  obtain ⟨parsed, asked, hp, ha, hsub⟩ := Language.validate_eq_ok_iff.mp h
  obtain ⟨found, hs, rfl⟩ := core_parse_eq_ok_iff.mp hp
  obtain ⟨made, hm, rfl⟩ := map_eq_ok_iff.mp ha
  obtain rfl := accepted_eq_ok hm
  refine ⟨made, hs, hm, fun n hn => ?_⟩
  by_cases hg : n ∈ globalNames
  · exact .inl hg
  · exact .inr (hsub (List.mem_filter.mpr ⟨hn, by simpa using hg⟩))

theorem lacksOnly_value {n : String} (hc : ∀ e ∈ caller, e.2.LacksOnly P)
    (hn : n ∈ globalNames ∨ n ∈ caller.map Prod.fst) : (caller.value n).LacksOnly P := by
  rw [Context.value]
  cases hl : caller.lookup n with
  | some v => exact hc _ (mem_of_lookup hl)
  | none =>
    rcases hn with hn | hn
    · rw [if_pos (List.contains_iff_mem.mpr hn)]
      trivial
    · obtain ⟨v, hv⟩ := exists_lookup_of_mem_keys hn
      rw [hl] at hv
      cases hv

/-- If the names that a template may use have values in which nothing is missing, putting them into it fails only
for these reasons because something is undefined. -/
theorem undefined_of_validate {available : List String} {template reason : String}
    (hv : validate available template = .ok ()) (hk : available ⊆ caller.map Prod.fst)
    (hc : ∀ e ∈ caller, ∀ P, e.2.LacksOnly P) (h : render template caller = .error (.undefined reason)) :
    ∃ found, statements template = .ok found ∧ AreFixed found ∧ MayBeUndefined found reason := by
  obtain ⟨found, hs, hok, ha⟩ := asked_of_validate hv
  refine ⟨found, hs, areFixed_of_statements hs, ?_⟩
  have hasked : ∀ n ∈ askedNames found, (caller.value n).LacksOnly (MayBeUndefined found) := fun n hn =>
    lacksOnly_value (fun e he => hc e he _) ((ha n hn).imp_right fun hn => hk hn)
  have hrun : Yields (MayBeUndefined found) (fun _ => True) (runTemplate caller found) := by
    rw [runTemplate]
    split
    · exact yields_error fun _ h => by cases h
    · exact (yields_runAll_template hasked).map fun _ _ => trivial
  have hparse : core.parse template = .ok (.ofStatements found) := core_parse_eq_ok_iff.mpr ⟨found, hs, rfl⟩
  rw [render, Language.render, hparse, ok_bind, Parsed.ofStatements, hok, mapError_eq_error_iff] at h
  obtain ⟨fault, hr, ht⟩ := h
  obtain rfl : fault = .undefined reason := by
    cases fault <;> first | exact ht | cases ht
  exact hrun.undefined reason hr

end ReleaseNotes.Template

namespace ReleaseNotes

open Template

variable {language : Language} {t : Data.Table} {w : WordingSettings}

/-- The templates of an accepted wording pass their checks. -/
theorem validate_of_readChecked (h : WordingSettings.readChecked language t = .ok w) :
    (∀ template ∈ w.sentences, language.validate sentenceNames template = .ok ()) ∧
      language.validate (branchName :: sentenceNames) w.branch = .ok () := by
  have hall : ∀ e ∈ w.templates, language.validate e.2.1 e.2.2 = .ok () := by
    unfold WordingSettings.readChecked at h
    split at h
    · cases h
    split at h
    · next hf =>
      cases h
      rintro ⟨name, available, template⟩ he
      have hnone := List.findSome?_eq_none_iff.mp hf _ he
      dsimp only at hnone ⊢
      cases hv : language.validate available template with
      | ok u => rfl
      | error fault =>
        rw [hv] at hnone
        cases hnone
    · cases h
  simp only [WordingSettings.templates, List.forall_mem_cons] at hall
  obtain ⟨htitle, hdelta, hfixes, hissues, henvironment, hbranch, -⟩ := hall
  refine ⟨?_, hbranch⟩
  simp only [WordingSettings.sentences, List.forall_mem_cons]
  exact ⟨htitle, hdelta, hfixes, hissues, henvironment, List.forall_mem_nil _⟩

/-- The names of a sentence stand for texts. -/
theorem lookup_sentenceContext (product release previous : String) :
    ∀ n ∈ sentenceNames, ∃ s, (sentenceContext product release previous).lookup n = some (.plain s) := by
  simp only [sentenceNames, List.forall_mem_cons]
  exact ⟨⟨product, rfl⟩, ⟨release, rfl⟩, ⟨previous, rfl⟩, List.forall_mem_nil _⟩

/-- **No accepted template fails for want of a name**, whatever its language is, if the language finds the names in
it: those that are found stand for texts, and with any further names it comes to the same. -/
theorem accepted_needs_no_more (h : WordingSettings.readChecked language t = .ok w)
    (hf : ∀ e ∈ w.templates, language.FindsNames e.2.2) (product release previous branch : String) :
    (∀ template ∈ w.sentences, language.NeedsNoMore template (sentenceContext product release previous)) ∧
      language.NeedsNoMore w.branch
        (sentenceContext product release previous ++ [(branchName, .plain branch)]) := by
  obtain ⟨hsentences, hbranch⟩ := validate_of_readChecked h
  simp only [WordingSettings.templates, List.forall_mem_cons] at hf
  obtain ⟨htitle, hdelta, hfixes, hissues, henvironment, hbranchFinds, -⟩ := hf
  have hfinds : ∀ template ∈ w.sentences, language.FindsNames template := by
    simp only [WordingSettings.sentences, List.forall_mem_cons]
    exact ⟨htitle, hdelta, hfixes, hissues, henvironment, List.forall_mem_nil _⟩
  have hgiven := lookup_sentenceContext product release previous
  refine ⟨fun template ht => Language.needsNoMore_of_validate (hsentences template ht) (hfinds template ht) hgiven,
    Language.needsNoMore_of_validate hbranch hbranchFinds (List.forall_mem_cons.mpr ⟨⟨branch, rfl⟩, fun n hn => ?_⟩)⟩
  obtain ⟨s, hs⟩ := hgiven n hn
  exact ⟨s, by rw [List.lookup_append, hs, Option.some_or]⟩

/-- A wording whose title is what the name of the product has under the name `x`, and that says nothing else. -/
def lookupWording : WordingSettings :=
  { title := "\x7b\x7b product.x \x7d\x7d", delta := "", bugFixes := "", issues := "", environment := "",
    branch := "" }

/-- The table with the templates of the wording. -/
def lookupTable : Data.Table :=
  lookupWording.templates.map fun e => (e.1, .text e.2.2)

theorem readChecked_lookupTable : WordingSettings.readChecked core lookupTable = .ok lookupWording := by
  decide +kernel

theorem render_lookupWording : render lookupWording.title (sentenceContext "Derby" "10.9" "10.8") =
    .error (.undefined "'str object' has no attribute 'x'") := by
  decide +kernel

/-- The title that looks something up fails whatever further names are given, and the text about the branch needs no
more than the branch. -/
theorem lookupWording_needs_no_more :
    WordingSettings.readChecked core lookupTable = .ok lookupWording ∧
      (∀ e ∈ lookupWording.templates, core.FindsNames e.2.2) ∧
      (∀ other : Context, (∀ n v, (sentenceContext "Derby" "10.9" "10.8").lookup n = some v → other.lookup n = some v) →
        (sentenceContext "Derby" "10.9" "10.8").AgreesOn other core.ownNames →
        core.render lookupWording.title other = .error (.undefined "'str object' has no attribute 'x'")) ∧
      core.NeedsNoMore lookupWording.branch
        (sentenceContext "Derby" "10.9" "10.8" ++ [(branchName, .plain "trunk")]) := by
  have hf : ∀ e ∈ lookupWording.templates, core.FindsNames e.2.2 := fun e _ => core_findsNames e.2.2
  obtain ⟨hsentences, hbranch⟩ := accepted_needs_no_more readChecked_lookupTable hf "Derby" "10.9" "10.8" "trunk"
  refine ⟨readChecked_lookupTable, hf, fun other hmore hown => ?_, hbranch⟩
  exact ((hsentences lookupWording.title (.head _)).unchanged other hmore hown).trans render_lookupWording

/-- What a value has is not checked when templates are set up: the wording is accepted, and its title fails because
something is undefined. -/
theorem accepted_lookupWording_fails :
    WordingSettings.readChecked core lookupTable = .ok lookupWording ∧
      lookupWording.title ∈ lookupWording.sentences ∧
      render lookupWording.title (sentenceContext "Derby" "10.9" "10.8") =
        .error (.undefined "'str object' has no attribute 'x'") :=
  ⟨readChecked_lookupTable, .head _, render_lookupWording⟩

/-- What is undefined in an accepted sentence of the core of the language is something that is looked up in a value,
the value of a choice that is not made and has no alternative, or a name that is read early. -/
theorem undefined_in_accepted (h : WordingSettings.readChecked core t = .ok w)
    (product release previous branch reason : String) :
    (∀ template ∈ w.sentences,
      render template (sentenceContext product release previous) = .error (.undefined reason) →
        ∃ found, statements template = .ok found ∧ AreFixed found ∧ MayBeUndefined found reason) ∧
    (render w.branch (sentenceContext product release previous ++ [(branchName, .plain branch)]) =
        .error (.undefined reason) →
      ∃ found, statements w.branch = .ok found ∧ AreFixed found ∧ MayBeUndefined found reason) := by
  have hgiven : ∀ e ∈ sentenceContext product release previous, ∀ P, e.2.LacksOnly P := by
    simp [sentenceContext]
  obtain ⟨hsentences, hbranch⟩ := validate_of_readChecked h
  refine ⟨fun template ht hr => undefined_of_validate (hsentences template ht) (List.Subset.refl _) hgiven hr,
    fun hr => undefined_of_validate hbranch ?_ ?_ hr⟩
  · rw [List.map_append]
    exact List.cons_subset.mpr ⟨List.mem_append_right _ (.head _), List.subset_append_left _ _⟩
  · exact List.forall_mem_append.mpr ⟨hgiven, by simp⟩

end ReleaseNotes
