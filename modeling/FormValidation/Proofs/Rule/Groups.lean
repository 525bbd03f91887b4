import FormValidation.Proofs.Text.Listing
import FormValidation.Rule.Basic

/-!
# Requests for groups

A request selects some of the rules that are selected without one (`isApplicable_none_of_isApplicable`), and
a request for two groups selects the rules that a request for one of them selects
(`isApplicable_append_comma`).

A request that is not white space only selects the enabled rules of which it lists a group, and that is all that
matters about how request and groups are written (`RequestLaws`, `requestLaws`).
-/

namespace FormValidation
namespace Rule

theorem isApplicable_none_of_isApplicable {r : Rule} {requested : Option String}
    (h : r.isApplicable requested = true) : r.isApplicable none = true := by
  have henabled : r.enabled = true := (Bool.and_eq_true_iff.1 h).1
  simp [isApplicable, henabled]

/-- A request with some text selects the enabled rules that share a group with it. -/
theorem isApplicable_some {request : String} (h : Text.trim request ≠ "") (r : Rule) :
    r.isApplicable (some request) = true ↔
      r.enabled = true ∧ ∃ group, r.group = some group ∧
        ∃ piece ∈ Text.pieces group, piece ∈ Text.pieces request := by
  have hblank : (Text.trim request == "") = false := beq_eq_false_iff_ne.2 h
  cases hgroup : r.group with
  | none => simp [isApplicable, hblank, hgroup]
  | some group => simp [isApplicable, hblank, hgroup]

/-- A comma is no white space. -/
theorem trim_append_comma_ne (s t : String) : Text.trim (s ++ "," ++ t) ≠ "" := by
  intro h
  have hblank := (Text.trim_eq_empty_iff _).1 h ',' (by simp)
  exact absurd hblank (by decide)

/-- A request for two groups selects what the requests for each of them select. -/
theorem isApplicable_append_comma {g h : String} (hg : Text.trim g ≠ "") (hh : Text.trim h ≠ "")
    (r : Rule) :
    r.isApplicable (some (g ++ "," ++ h)) = (r.isApplicable (some g) || r.isApplicable (some h)) := by
  rw [Bool.eq_iff_iff, Bool.or_eq_true, isApplicable_some hg, isApplicable_some hh,
    isApplicable_some (trim_append_comma_ne g h)]
  simp only [Text.pieces_append_comma, List.mem_append]
  constructor
  · rintro ⟨henabled, group, hgroup, piece, hpiece, hleft | hright⟩
    · exact .inl ⟨henabled, group, hgroup, piece, hpiece, hleft⟩
    · exact .inr ⟨henabled, group, hgroup, piece, hpiece, hright⟩
  · rintro (⟨henabled, group, hgroup, piece, hpiece, hleft⟩ |
      ⟨henabled, group, hgroup, piece, hpiece, hright⟩)
    · exact ⟨henabled, group, hgroup, piece, hpiece, .inl hleft⟩
    · exact ⟨henabled, group, hgroup, piece, hpiece, .inr hright⟩

/-! ## Requests and groups as sets -/

/-- The groups of a rule. -/
def groups (r : Rule) : Set String :=
  r.group.elim ∅ Text.listed

/-- A request that is not white space only selects an enabled rule exactly if it lists one of its groups. -/
theorem isApplicable_iff_nonempty {r : Rule} (h : r.enabled = true) {request : String}
    (hrequest : ¬Text.IsBlank request) :
    r.isApplicable (some request) = true ↔ (Text.listed request ∩ r.groups).Nonempty := by
  have htrim : Text.trim request ≠ "" := fun htrim => hrequest ((Text.trim_eq_empty_iff _).1 htrim)
  rw [isApplicable_some htrim, groups]
  cases r.group with
  | none => simp
  | some group =>
      simp only [h, true_and, Option.some_inj, exists_eq_left', Text.mem_pieces_iff]
      exact ⟨fun ⟨word, hgroup, hword⟩ => ⟨word, hword, hgroup⟩, fun ⟨word, hword, hgroup⟩ => ⟨word, hgroup, hword⟩⟩

theorem isApplicable_of_isBlank {r : Rule} (h : r.enabled = true) {request : String}
    (hrequest : Text.IsBlank request) : r.isApplicable (some request) = true := by
  simp [isApplicable, h, (Text.trim_eq_empty_iff request).2 hrequest]

/-- Requests that list the same select the same rules. -/
theorem isApplicable_congr {request request' : String} (hrequest : ¬Text.IsBlank request)
    (hrequest' : ¬Text.IsBlank request')
    (h : ∀ word, word ∈ Text.pieces request' ↔ word ∈ Text.pieces request) (r : Rule) :
    r.isApplicable (some request') = r.isApplicable (some request) := by
  rw [Bool.eq_iff_iff, isApplicable_some fun htrim => hrequest' ((Text.trim_eq_empty_iff _).1 htrim),
    isApplicable_some fun htrim => hrequest ((Text.trim_eq_empty_iff _).1 htrim)]
  simp only [h]

/-- Rules whose groups are listed the same are selected by the same requests. -/
theorem isApplicable_group_congr {group group' : String}
    (h : ∀ word, word ∈ Text.pieces group' ↔ word ∈ Text.pieces group) (r : Rule) (requested : Option String) :
    { r with group := some group' }.isApplicable requested =
      { r with group := some group }.isApplicable requested := by
  cases requested with
  | none => rfl
  | some request =>
      by_cases hblank : Text.trim request = ""
      · simp [isApplicable, hblank]
      · rw [Bool.eq_iff_iff, isApplicable_some hblank, isApplicable_some hblank]
        simp [h]

theorem isApplicable_exchange {request group : String} (hrequest : ¬Text.IsBlank request)
    (hgroup : ¬Text.IsBlank group) (r : Rule) :
    { r with group := some group }.isApplicable (some request) =
      { r with group := some request }.isApplicable (some group) := by
  rw [Bool.eq_iff_iff, isApplicable_some fun htrim => hrequest ((Text.trim_eq_empty_iff _).1 htrim),
    isApplicable_some fun htrim => hgroup ((Text.trim_eq_empty_iff _).1 htrim)]
  simp [and_comm]

/-! ## The laws of requests -/

/-- How requests select an enabled rule. -/
structure RequestLaws (r : Rule) : Prop where
  /-- A request that is not white space only selects the rule if it lists a group of it, and only then. -/
  meets : ∀ request, ¬Text.IsBlank request →
    (r.isApplicable (some request) = true ↔ (Text.listed request ∩ r.groups).Nonempty)
  /-- In a request, the order, the repetition and the white space of its parts do not matter, nor more commas, -/
  request_respelled : ∀ parts parts', Text.Respelled parts parts' → ¬Text.IsBlank (Text.join parts) →
    r.isApplicable (some (Text.join parts')) = r.isApplicable (some (Text.join parts))
  /-- and neither do they in the groups of the rule. -/
  group_respelled : ∀ parts parts' requested, Text.Respelled parts parts' →
    { r with group := some (Text.join parts') }.isApplicable requested =
      { r with group := some (Text.join parts) }.isApplicable requested
  /-- Request and groups can be exchanged. -/
  exchange : ∀ request group, ¬Text.IsBlank request → ¬Text.IsBlank group →
    { r with group := some group }.isApplicable (some request) =
      { r with group := some request }.isApplicable (some group)
  /-- Two requests with a comma between them select the rule if one of them does. -/
  either : ∀ request request', ¬Text.IsBlank request → ¬Text.IsBlank request' →
    r.isApplicable (some (request ++ "," ++ request')) =
      (r.isApplicable (some request) || r.isApplicable (some request'))
  /-- White space with a comma in it selects no rule, -/
  commas : ∀ request : String, ',' ∈ request.toList →
    (∀ c ∈ request.toList, c = ',' ∨ Text.isBlank c = true) → r.isApplicable (some request) = false
  /-- but white space only and no request at all select every rule. -/
  blank : ∀ request, Text.IsBlank request → r.isApplicable (some request) = true
  absent : r.isApplicable none = true

/-- Requests for groups ask whether two sets of words meet. -/
theorem requestLaws (r : Rule) (h : r.enabled = true) : RequestLaws r where
  meets request := isApplicable_iff_nonempty h
  request_respelled parts parts' hparts hblank :=
    isApplicable_congr hblank (fun hblank' => hblank (hparts.isBlank_join hblank')) hparts.mem_pieces_iff r
  group_respelled parts parts' requested hparts := isApplicable_group_congr hparts.mem_pieces_iff r requested
  exchange request group hrequest hgroup := isApplicable_exchange hrequest hgroup r
  either request request' hrequest hrequest' :=
    isApplicable_append_comma (fun htrim => hrequest ((Text.trim_eq_empty_iff _).1 htrim))
      (fun htrim => hrequest' ((Text.trim_eq_empty_iff _).1 htrim)) r
  commas request hcomma hrequest := by
    have hblank : ¬Text.IsBlank request := fun hblank => Text.comma_notMem hblank hcomma
    rw [Bool.eq_false_iff, ne_eq, isApplicable_iff_nonempty h hblank]
    rintro ⟨word, hword, -⟩
    rw [← Text.mem_pieces_iff, Text.pieces_eq_nil hrequest] at hword
    exact List.not_mem_nil hword
  blank request := isApplicable_of_isBlank h
  absent := by simp [isApplicable, h]

/-- A rule of two groups. -/
def addressRule : Rule :=
  { about .required "street" "Street is required" with group := some "billing, shipping" }

/-- The rule is selected by one of its groups with white space around it and a comma behind it, but not by a comma
in white space. -/
theorem requestLaws_address :
    addressRule.enabled = true ∧
      addressRule.isApplicable (some "\u3000billing ,") = true ∧ addressRule.isApplicable (some " , ") = false := by
  have hlaws := requestLaws addressRule rfl
  have hfront : Text.IsBlank "\u3000" := by decide +kernel
  have hback : Text.IsBlank " " := by decide +kernel
  have hparts : Text.Respelled ["billing"] ["\u3000billing ", ""] :=
    (Text.Respelled.padded hfront hback _ _).trans ((Text.Respelled.comma _).trans (.reordered (List.Perm.swap _ _ _)))
  have hwords : ¬Text.IsBlank (Text.join ["billing"]) := by decide +kernel
  have hcommas : ∀ c ∈ " , ".toList, c = ',' ∨ Text.isBlank c = true := by
    rw [show " , ".toList = [' ', ',', ' '] from rfl]
    simp only [List.forall_mem_cons]
    exact ⟨.inr rfl, .inl trivial, .inr rfl, nofun⟩
  have hbilling : addressRule.isApplicable (some "billing") = true := by decide +kernel
  exact ⟨rfl, (hlaws.request_respelled _ _ hparts hwords).trans hbilling,
    hlaws.commas " , " (by decide +kernel) hcommas⟩

end Rule
end FormValidation
