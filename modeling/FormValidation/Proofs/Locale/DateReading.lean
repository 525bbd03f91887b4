import FormValidation.Proofs.Locale.DateMatch

/-!
# Reading dates is scanning them

The locales at hand read a date as it is scanned (`Locale.readDate_eq_scan`): what the groups of a format
remember are the runs of digits of the scan (`DateFormat.match?_eq`), and from these the components are made
in the same way (`DateParts.ofCaptures_eq_parts`).
-/

namespace FormValidation

/-! ## Components -/

namespace DateParts

variable {captures : Pattern.Captures}

theorem optional_eq (group : Nat) :
    optional captures (some group) =
      match captures.text? group with
      | none => .ok none
      | some digits => (DateScan.number digits).map some := by
  show (match captures.text? group with
    | none => Except.ok none
    | some digits => _) = _
  cases captures.text? group with
  | none => rfl
  | some digits =>
      simp only [DateScan.number]
      cases Text.signed64? digits <;> rfl

theorem required_eq {group : Nat} {digits : List Char} (h : captures.text? group = some digits) :
    required captures group = DateScan.number digits := by
  rw [required, optional_eq, h]
  simp only
  cases DateScan.number digits <;> rfl

/-- From groups that remember what was scanned the components are made as by the scan. -/
theorem ofCaptures_eq_parts {groups : DateGroups} {year month day : List Char}
    {clock : Option DateScan.Clock} (hyear : captures.text? groups.year = some year)
    (hmonth : captures.text? groups.month = some month) (hday : captures.text? groups.day = some day)
    (hgroups : groups.hour = some 5 ∧ groups.minute = some 6 ∧ groups.second = some 8)
    (hhour : captures.text? 5 = clock.map (·.hour))
    (hminute : captures.text? 6 = clock.map (·.minute))
    (hsecond : captures.text? 8 = clock.bind (·.second)) :
    ofCaptures groups captures = DateScan.parts year month day clock := by
  rcases hgroups with ⟨h5, h6, h8⟩
  rw [ofCaptures, DateScan.parts, required_eq hyear, required_eq hmonth, required_eq hday, h5, h6, h8,
    optional_eq, optional_eq, optional_eq, hhour, hminute, hsecond]
  -- Both read the numbers in the same order, and the first one that does not fit decides the error.
  cases DateScan.number year with
  | error x => rfl
  | ok year =>
      cases DateScan.number month with
      | error x => rfl
      | ok month =>
          cases DateScan.number day with
          | error x => rfl
          | ok day =>
              rcases clock with _ | ⟨hour, minute, _ | second⟩
              · rfl
              · simp only [Option.map_some, Option.bind_some]
                cases DateScan.number hour with
                | error x => rfl
                | ok hour => cases DateScan.number minute <;> rfl
              · simp only [Option.map_some, Option.bind_some]
                cases DateScan.number hour with
                | error x => rfl
                | ok hour =>
                    cases DateScan.number minute with
                    | error x => rfl
                    | ok minute => cases DateScan.number second <;> rfl

end DateParts

/-! ## Formats -/

namespace Pattern.CharClass

theorem has_international :
    (CharClass.union (.ranges Unicode.whiteSpace) (.single 'T')).has = DateScan.international.gap := by
  funext c
  have hletter : (CharClass.single 'T').contains c.toNat = (c == 'T') := by
    rw [Bool.eq_iff_iff, beq_iff_eq]
    exact has_single 'T' c
  simp [has, contains, hletter, DateScan.international, DateScan.isBlank]

end Pattern.CharClass

/-- What a date format makes of a text, if its expression is that of dates in a given layout. -/
theorem DateFormat.match?_eq {f : DateFormat} {layout : DateScan.Layout} {gap : Pattern.CharClass}
    (hregex : f.pattern.regex = Pattern.Regex.date layout gap) (hgap : gap.has = layout.gap)
    (text : String) :
    match DateScan.fields? layout text.toList with
    | none => f.match? text = none
    | some fields => ∃ captures, f.match? text = some (captures, f.groups) ∧
        Pattern.Regex.Reads captures fields := by
  -- The format looks for its expression and keeps what the groups remember.
  have hmatch : f.match? text =
      ((Pattern.Regex.date layout gap).find? text.toList).map fun q => (q.captures, f.groups) := by
    rw [match?, Pattern.captures?, hregex, Option.map_map]
    rfl
  have hfind := Pattern.Regex.find?_date layout hgap text.toList
  rw [hmatch]
  cases hfields : DateScan.fields? layout text.toList with
  | none =>
      rw [hfields] at hfind
      simp [hfind]
  | some fields =>
      rw [hfields] at hfind
      rcases hfind with ⟨q, hq, hreads⟩
      exact ⟨q.captures, by rw [hq]; rfl, hreads⟩

theorem DateFormat.match?_international (text : String) :
    match DateScan.fields? DateScan.international text.toList with
    | none => international.match? text = none
    | some fields => ∃ captures, international.match? text = some (captures, .yearFirst) ∧
        Pattern.Regex.Reads captures fields :=
  match?_eq (f := international) rfl Pattern.CharClass.has_international text

theorem DateFormat.match?_international_eq_none_iff (text : String) :
    international.match? text = none ↔
      DateScan.fields? DateScan.international text.toList = none := by
  have hmatch := match?_international text
  cases hfields : DateScan.fields? DateScan.international text.toList with
  | none =>
      rw [hfields] at hmatch
      exact ⟨fun _ => rfl, fun _ => hmatch⟩
  | some fields =>
      rw [hfields] at hmatch
      rcases hmatch with ⟨captures, hmatch, -⟩
      simp [hmatch]

/-! ## Locales -/

/-- The groups of dates with slashes. -/
def DateScan.Order.groups : DateScan.Order → DateGroups
  | .monthFirst => .monthFirst
  | .dayFirst => .dayFirst

theorem DateParts.ofCaptures_eq_order_parts {captures : Pattern.Captures} {fields : DateScan.Fields}
    (order : DateScan.Order) (h : Pattern.Regex.Reads captures fields) :
    ofCaptures order.groups captures = order.parts fields := by
  cases order with
  | monthFirst =>
      exact ofCaptures_eq_parts h.third h.first h.second ⟨rfl, rfl, rfl⟩ h.hour h.minute h.seconds
  | dayFirst =>
      exact ofCaptures_eq_parts h.third h.second h.first ⟨rfl, rfl, rfl⟩ h.hour h.minute h.seconds

namespace Locale

/-- The international format comes first, whatever the locale. -/
theorem readDate_of_international (l : Locale) {text : String} {fields : DateScan.Fields}
    (h : DateScan.fields? DateScan.international text.toList = some fields) :
    l.readDate text =
      DateScan.parts fields.first fields.second fields.third fields.clock >>= DateParts.instant := by
  have hmatch := DateFormat.match?_international text
  rw [h] at hmatch
  rcases hmatch with ⟨captures, hmatch, hreads⟩
  have hparts : DateParts.ofCaptures .yearFirst captures =
      DateScan.parts fields.first fields.second fields.third fields.clock :=
    DateParts.ofCaptures_eq_parts hreads.first hreads.second hreads.third ⟨rfl, rfl, rfl⟩
      hreads.hour hreads.minute hreads.seconds
  rw [readDate, hmatch]
  simp only [Option.some_or, hparts]

/-- A locale with slashes between the numbers of dates reads dates as they are scanned. -/
theorem readDate_of_slashed {l : Locale} (order : DateScan.Order)
    (hregex : l.dateFormat.pattern.regex = .slashedDate) (hgroups : l.dateFormat.groups = order.groups)
    (text : String) : l.readDate text = DateScan.readDate order text := by
  rw [DateScan.readDate, DateScan.parts?]
  cases hfields : DateScan.fields? DateScan.international text.toList with
  | some fields => exact readDate_of_international l hfields
  | none =>
      have hinternational := (DateFormat.match?_international_eq_none_iff text).2 hfields
      have hslashed : match DateScan.fields? DateScan.slashed text.toList with
          | none => l.dateFormat.match? text = none
          | some fields => ∃ captures, l.dateFormat.match? text = some (captures, l.dateFormat.groups) ∧
              Pattern.Regex.Reads captures fields :=
        DateFormat.match?_eq hregex rfl text
      rw [readDate, hinternational, Option.none_or]
      cases hfields' : DateScan.fields? DateScan.slashed text.toList with
      | none =>
          rw [hfields'] at hslashed
          simp only [hslashed, Option.map_none]
      | some fields =>
          rw [hfields'] at hslashed
          rcases hslashed with ⟨captures, hmatch, hreads⟩
          have hparts := DateParts.ofCaptures_eq_order_parts order hreads
          simp only [hmatch, hgroups, hparts, Option.map_some]

theorem readDate_swap {a b : String} (ha : '/' ∉ a.toList) (hb : '/' ∉ b.toList) (rest : String)
    (hfirst : DateFormat.international.match? (a ++ "/" ++ b ++ "/" ++ rest) = none)
    (hsecond : DateFormat.international.match? (b ++ "/" ++ a ++ "/" ++ rest) = none) :
    DateScan.readDate .dayFirst (a ++ "/" ++ b ++ "/" ++ rest) =
      DateScan.readDate .monthFirst (b ++ "/" ++ a ++ "/" ++ rest) := by
  rw [DateFormat.match?_international_eq_none_iff] at hfirst hsecond
  have hchars : ∀ a b : String, (a ++ "/" ++ b ++ "/" ++ rest).toList =
      a.toList ++ '/' :: (b.toList ++ '/' :: rest.toList) := fun a b => by simp
  -- Neither text is a date in the international format, so both are scanned for slashes.
  have hparts : DateScan.parts? .dayFirst (a ++ "/" ++ b ++ "/" ++ rest).toList =
      DateScan.parts? .monthFirst (b ++ "/" ++ a ++ "/" ++ rest).toList := by
    calc
      DateScan.parts? .dayFirst (a ++ "/" ++ b ++ "/" ++ rest).toList
          = (DateScan.fields? DateScan.slashed
              (a.toList ++ '/' :: (b.toList ++ '/' :: rest.toList))).map
                DateScan.Order.dayFirst.parts := by
            rw [DateScan.parts?, hfirst, hchars]
      _ = (DateScan.fields? DateScan.slashed
              (b.toList ++ '/' :: (a.toList ++ '/' :: rest.toList))).map
                DateScan.Order.monthFirst.parts := by
            rw [DateScan.fields?_slashed_swap ha hb, Option.map_map]
            rfl
      _ = DateScan.parts? .monthFirst (b ++ "/" ++ a ++ "/" ++ rest).toList := by
            rw [DateScan.parts?, hsecond, hchars]
  rw [DateScan.readDate, hparts, DateScan.readDate]

/-- Under the locales at hand dates are read as they are scanned, the month or the day first.  So two
texts before slashes change places between French and American English, unless they make a date in the
international format, for which one of them needs a hyphen. -/
theorem readDate_eq_scan :
    (∀ text, enUS.readDate text = DateScan.readDate .monthFirst text ∧
      en.readDate text = DateScan.readDate .monthFirst text ∧
      fr.readDate text = DateScan.readDate .dayFirst text) ∧
    (∀ a b rest : String, '/' ∉ a.toList → '/' ∉ b.toList →
      DateFormat.international.match? (a ++ "/" ++ b ++ "/" ++ rest) = none →
      DateFormat.international.match? (b ++ "/" ++ a ++ "/" ++ rest) = none →
        fr.readDate (a ++ "/" ++ b ++ "/" ++ rest) = enUS.readDate (b ++ "/" ++ a ++ "/" ++ rest)) ∧
    ∀ a rest : String, '-' ∉ a.toList →
      DateFormat.international.match? (a ++ "/" ++ rest) = none := by
  refine ⟨?_, ?_, ?_⟩
  · intro text
    refine ⟨?_, ?_, ?_⟩
    · exact readDate_of_slashed .monthFirst rfl rfl text
    · exact readDate_of_slashed .monthFirst rfl rfl text
    · exact readDate_of_slashed .dayFirst rfl rfl text
  · intro a b rest ha hb hfirst hsecond
    rw [readDate_of_slashed .dayFirst rfl rfl, readDate_of_slashed .monthFirst rfl rfl,
      readDate_swap ha hb rest hfirst hsecond]
  · intro a rest ha
    have hchars : (a ++ "/" ++ rest).toList = a.toList ++ '/' :: rest.toList := by simp
    rw [DateFormat.match?_international_eq_none_iff, hchars]
    exact DateScan.fields?_international_slash ha _

/-- The fifth of March, in French and in American English. -/
theorem readDate_eq_scan_march :
    fr.readDate "05/03/2024 7:45 UTC" = enUS.readDate "03/05/2024 7:45 UTC" ∧
      enUS.readDate "03/05/2024 7:45 UTC" = .ok ⟨2024, 3, 5, 7, 45, 0⟩ := by
  rcases readDate_eq_scan with ⟨hscan, hswap, hnone⟩
  have hchars : ∀ a b rest : String, a ++ "/" ++ b ++ "/" ++ rest = a ++ "/" ++ (b ++ "/" ++ rest) :=
    fun a b rest => by simp [String.append_assoc]
  refine ⟨hswap "05" "03" "2024 7:45 UTC" (by decide) (by decide) ?_ ?_, ?_⟩
  · rw [hchars]
    exact hnone "05" _ (by decide)
  · rw [hchars]
    exact hnone "03" _ (by decide)
  · rw [(hscan _).1]
    have hdate : (DateScan.readDate .monthFirst "03/05/2024 7:45 UTC").toOption =
        some ⟨2024, 3, 5, 7, 45, 0⟩ := by
      decide +kernel
    cases hresult : DateScan.readDate .monthFirst "03/05/2024 7:45 UTC" with
    | error x => simp [hresult, Except.toOption] at hdate
    | ok i =>
        rw [hresult] at hdate
        exact congrArg Except.ok (Option.some.inj hdate)

end Locale
end FormValidation
