import FormValidation.Proofs.Pattern.Email
import FormValidation.Proofs.Rule.Evaluation

/-!
# Email rules

An email rule passes the empty value and the addresses of the grammar (`Rule.evaluate_email`).  It decides as
a rule with the pattern of addresses does.
-/

namespace FormValidation
namespace Rule

variable {l : Locale} {registry : Registry} {form : Form} {r : Rule} {control : Option String} {value : String}

/-- The rule that asks for the pattern of addresses in place of an address. -/
def withEmailPattern (r : Rule) : Rule :=
  { r with kind := .regexp, pattern := some Email.patternSource }

theorem evaluateOn_email (hkind : r.kind = .email) (hvalue : r.readValue form control = .ok value) :
    r.evaluateOn l registry form control =
      .ok ⟨.ofCheck r (value == "" || Email.isAddress value) control, none⟩ := by
  simp [evaluateOn, passes, hkind, hvalue, bind, Except.bind, pure, Except.pure]

/-- Rules of both kinds need a message and a control, and compare nothing. -/
theorem checkDeclaration_withEmailPattern (hkind : r.kind = .email)
    (hchecked : r.checkDeclaration form = .ok control) :
    r.withEmailPattern.checkDeclaration form = .ok control := by
  rcases bind_eq_ok.1 hchecked with ⟨_, hneeded, h⟩
  have hneeded' : r.withEmailPattern.checkNeeded = .ok () := by
    by_cases hmessage : r.message = none
    · simp [checkNeeded, hkind, hmessage] at hneeded
    · by_cases hcontrol : r.control = none
      · simp [checkNeeded, hkind, hmessage, hcontrol] at hneeded
      · simp [checkNeeded, withEmailPattern, hmessage, hcontrol]
  have hcomparison : r.withEmailPattern.checkComparison form = r.checkComparison form := by
    simp [checkComparison, withEmailPattern, hkind, RuleKind.valueKind?]
  refine bind_eq_ok.2 ⟨(), hneeded', ?_⟩
  rw [hcomparison]
  exact h

theorem evaluateOn_withEmailPattern (hvalue : r.readValue form control = .ok value) :
    r.withEmailPattern.evaluateOn l registry form control =
      .ok ⟨.ofCheck r (value == "" || Email.isAddress value) control, none⟩ := by
  -- Reading a value looks at the control alone, not at the kind of the rule.
  have hread : r.withEmailPattern.readValue form control = .ok value := by
    cases control with
    | none => cases hvalue
    | some id => exact hvalue
  have hmatches : r.withEmailPattern.matchesPattern form control =
      .ok (value == "" || Email.isAddress value) := by
    simp only [matchesPattern, withEmailPattern, Email.read?_patternSource] at hread ⊢
    rw [hread, ← Email.isMatch_pattern]
    rfl
  have hpasses : r.withEmailPattern.passes l form control =
      .ok (value == "" || Email.isAddress value) := hmatches
  rw [evaluateOn, if_neg (by simp [withEmailPattern]), hpasses]
  rfl

/-- An email rule passes the empty value and the addresses of the grammar, and decides as a rule with the
pattern of addresses does. -/
theorem evaluate_email (l : Locale) (registry : Registry) (hkind : r.kind = .email)
    (hchecked : r.checkDeclaration form = .ok control) (hvalue : r.readValue form control = .ok value) :
    ∃ passed, r.evaluate l registry form = .ok ⟨.ofCheck r passed control, none⟩ ∧
      r.withEmailPattern.evaluate l registry form = .ok ⟨.ofCheck r passed control, none⟩ ∧
      (passed = true ↔ value = "" ∨ Email.IsAddress value.toList) ∧
      (passed = true → value ≠ "" →
        (∃ name domain, value.toList = name ++ '@' :: domain ∧
          Email.JoinersApart name ∧ Email.JoinersApart domain) ∧
        value.toList.count '@' = 1 ∧
        ∀ c ∈ value.toList, Email.IsWordChar c ∨ Email.IsJoiner c ∨ c = '@') := by
  have hcontrol : control = r.control := checkDeclaration_eq_ok hchecked
  have hpassed : (value == "" || Email.isAddress value) = true ↔
      value = "" ∨ Email.IsAddress value.toList := by
    rw [Bool.or_eq_true, beq_iff_eq, Email.isAddress_eq_true_iff]
  refine ⟨value == "" || Email.isAddress value, ?_, ?_, hpassed, fun h hne => ?_⟩
  · rw [evaluate_of_checkDeclaration hchecked, ← hcontrol]
    exact evaluateOn_email hkind hvalue
  · rw [evaluate_of_checkDeclaration (checkDeclaration_withEmailPattern hkind hchecked)]
    rw [show r.withEmailPattern.control = control from hcontrol.symm]
    exact evaluateOn_withEmailPattern hvalue
  · have haddress := (hpassed.1 h).resolve_left hne
    refine ⟨?_, haddress.count_at, haddress.mem⟩
    rcases haddress with ⟨name, domain, hname, hdomain, hchars⟩
    exact ⟨name, domain, hchars, hname.joinersApart, hdomain.isName.joinersApart⟩

/-- A form with the address of a host in a domain. -/
def mailForm : Form where
  controls := [⟨"mail", .input "text" "first_x-y.last@sub.host-name.io" false⟩]
  validators := []

theorem evaluate_email_hostName :
    let r := Rule.about .email "mail" "no address"
    r.checkDeclaration mailForm = .ok (some "mail") ∧
      r.readValue mailForm (some "mail") = .ok "first_x-y.last@sub.host-name.io" ∧
      r.evaluate .fr .empty mailForm = .ok ⟨⟨true, none, some "mail"⟩, none⟩ ∧
      r.withEmailPattern.evaluate .fr .empty mailForm = .ok ⟨⟨true, none, some "mail"⟩, none⟩ ∧
      Email.IsAddress "first_x-y.last@sub.host-name.io".toList := by
  intro r
  have hchecked : r.checkDeclaration mailForm = .ok (some "mail") := by decide +kernel
  have hvalue : r.readValue mailForm (some "mail") = .ok "first_x-y.last@sub.host-name.io" := by
    decide +kernel
  have hrun : r.evaluate .fr .empty mailForm = .ok ⟨⟨true, none, some "mail"⟩, none⟩ := by
    decide +kernel
  rcases evaluate_email .fr .empty rfl hchecked hvalue with
    ⟨passed, hemail, hpattern, hiff, -⟩
  obtain rfl : passed = true := by
    have hverdict := Except.ok.inj (hemail.symm.trans hrun)
    simpa [Verdict.ofCheck] using congrArg (fun e => e.verdict.passed) hverdict
  exact ⟨hchecked, hvalue, hrun, hpattern, (hiff.1 rfl).resolve_left (by decide)⟩

end Rule
end FormValidation
