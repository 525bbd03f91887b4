import FormValidation.Json.Basic

/-!
# Laying one JSON value over another

`Json.merge base upper` is `upper`, except that where both are objects the members of `base` stay unless
`upper` has a member of the same key, and that members of a key that both have are merged in turn.
-/

namespace FormValidation
namespace Json

mutual

/-- The value `upper`, completed by `base` where both are objects. -/
def merge (base : Json) (upper : Json) : Json :=
  match upper with
  | .obj members =>
      match base with
      | .obj baseMembers => .obj (mergeMembers baseMembers members)
      | _ => .obj members
  | j => j

/-- The members of an object with those of another one laid over them. -/
def mergeMembers (base : List (String × Json)) : List (String × Json) → List (String × Json)
  | [] => base
  | (key, value) :: rest =>
      match lookup? key base with
      | some below => mergeMembers (put key (merge below value) base) rest
      | none => mergeMembers (put key value base) rest

end

end Json
end FormValidation
