import ReleaseNotes.Result
import ReleaseNotes.Template.Language

/-!
# Templates of any language

What checking a template comes to, whatever its language is. It passes just if the template can be read and
looks up no names but those that are available (`Language.validate_eq_ok_iff`). Otherwise something is told as wrong
with the template, unless the language fails at it in another way (`Language.BreaksOff`).

A language finds the names in a template if the text of the template depends on no others
(`Language.FindsNames`). Then a template that has passed its check needs no more names than those that it may use:
it comes to the same whatever other names are given besides (`Language.needsNoMore_of_validate`).
-/

namespace ReleaseNotes.Template

variable {language : Language} {template n : String} {names available asked : List String} {parsed : Parsed}
  {fault : Fault} {caller other : Context}

theorem mem_sortedNames : n ∈ sortedNames names ↔ n ∈ names := by
  rw [sortedNames, List.mem_mergeSort, List.mem_eraseDups]

theorem sortedNames_eq_nil_iff : sortedNames names = [] ↔ names = [] := by
  simp only [List.eq_nil_iff_forall_not_mem, mem_sortedNames]

namespace Language

/-! ### Checking -/

theorem validate_of_parse_error (h : language.parse template = .error fault) :
    language.validate available template = .error fault.told := by
  rw [validate, h]
  rfl

theorem validate_of_asked_error (h : language.parse template = .ok parsed) (ha : parsed.asked = .error fault) :
    language.validate available template = .error fault.untold := by
  rw [validate, h]
  change (parsed.asked.mapError Fault.untold >>= _) = _
  rw [ha]
  rfl

/-- A template whose names are found is checked by comparing them with those that are available. -/
theorem validate_of_asked (h : language.parse template = .ok parsed) (ha : parsed.asked = .ok asked) :
    language.validate available template =
      match sortedNames (asked.filter fun n => !available.contains n) with
      | [] => .ok ()
      | names => .error (.undeclared names (sortedNames available)) := by
  rw [validate, h]
  change (parsed.asked.mapError Fault.untold >>= _) = _
  rw [ha]
  rfl

/-- A template passes its check just if it can be read and looks up available names only. -/
theorem validate_eq_ok_iff :
    language.validate available template = .ok () ↔
      ∃ parsed asked, language.parse template = .ok parsed ∧ parsed.asked = .ok asked ∧ asked ⊆ available := by
  cases hp : language.parse template with
  | error fault => simp [validate_of_parse_error hp]
  | ok parsed =>
    cases ha : parsed.asked with
    | error fault => simp [validate_of_asked_error hp ha, ha]
    | ok asked =>
      have hnone : sortedNames (asked.filter fun n => !available.contains n) = [] ↔ asked ⊆ available := by
        rw [sortedNames_eq_nil_iff, List.filter_eq_nil_iff]
        simp [List.subset_def]
      rw [validate_of_asked hp ha]
      split <;> simp_all

/-- The language fails at a template in a way of which nothing is told as wrong with the template: when it reads the
template, or when it looks for the names in it. -/
def BreaksOff (language : Language) (template : String) : Prop :=
  (∃ fault, language.parse template = .error fault ∧ fault.told.isComplaint = false) ∨
    ∃ parsed fault, language.parse template = .ok parsed ∧ parsed.asked = .error fault ∧
      fault.untold.isComplaint = false

/-- Whatever names are available, checking a template fails without anything being told as wrong with it just if the
language fails at it so. -/
theorem breaksOff_iff (available : List String) :
    language.BreaksOff template ↔
      ∃ fault, language.validate available template = .error fault ∧ fault.isComplaint = false := by
  rw [BreaksOff]
  cases hp : language.parse template with
  | error fault => simp [validate_of_parse_error hp]
  | ok parsed =>
    cases ha : parsed.asked with
    | error fault => simp [validate_of_asked_error hp ha, ha]
    | ok asked =>
      rw [validate_of_asked hp ha]
      split <;> simp_all [Fault.isComplaint]

end Language

/-! ### Names that are looked up -/

/-- Two callers give the same values to some names. -/
def Context.AgreesOn (caller other : Context) (names : List String) : Prop :=
  ∀ n ∈ names, caller.lookup n = other.lookup n

/-- What a template comes to depends on the values of some names only. -/
def Parsed.DependsOn (parsed : Parsed) (names : List String) : Prop :=
  ∀ caller other : Context, caller.AgreesOn other names → parsed.text caller = parsed.text other

namespace Language

/-- The names that the language finds in a template, with its own, are all that matter when the template is put
together. -/
def FindsNames (language : Language) (template : String) : Prop :=
  ∀ parsed asked, language.parse template = .ok parsed → parsed.asked = .ok asked →
    parsed.DependsOn (asked ++ language.ownNames)

/-- A template needs no more than its caller gives. -/
structure NeedsNoMore (language : Language) (template : String) (caller : Context) : Prop where
  /-- Every name that is found in the template stands for a text. -/
  given : ∃ parsed asked, language.parse template = .ok parsed ∧ parsed.asked = .ok asked ∧
    ∀ n ∈ asked, ∃ s, caller.lookup n = some (.plain s)
  /-- With more names, none of them one of the language, it comes to the same. -/
  unchanged : ∀ other : Context, (∀ n v, caller.lookup n = some v → other.lookup n = some v) →
    caller.AgreesOn other language.ownNames → language.render template other = language.render template caller

/-- A template that has passed its check needs no more than texts for the names that it may use. -/
theorem needsNoMore_of_validate (hv : language.validate available template = .ok ())
    (hf : language.FindsNames template) (hc : ∀ n ∈ available, ∃ s, caller.lookup n = some (.plain s)) :
    language.NeedsNoMore template caller := by
  obtain ⟨parsed, asked, hp, ha, hsub⟩ := validate_eq_ok_iff.mp hv
  have hgiven : ∀ n ∈ asked, ∃ s, caller.lookup n = some (.plain s) := fun n hn => hc n (hsub hn)
  refine ⟨⟨parsed, asked, hp, ha, hgiven⟩, fun other hmore hown => ?_⟩
  have hagree : caller.AgreesOn other (asked ++ language.ownNames) := by
    intro n hn
    rcases List.mem_append.mp hn with hn | hn
    · obtain ⟨s, hs⟩ := hgiven n hn
      rw [hs, hmore n _ hs]
    · exact hown n hn
  have htext := hf parsed asked hp ha caller other hagree
  rw [render, render, hp, ok_bind, ok_bind, htext]

end Language

end ReleaseNotes.Template
