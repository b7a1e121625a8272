import SnippetRubric.Declaration.TypeLiteral
import SnippetRubric.Handle.Basic

/-!
# Members of a type

A handle on a declaration that carries a type literal can be asked for a member: by name, and
where asked for by the member's type and by whether it may be left out.
-/

namespace SnippetRubric

/-- What is expected of one member of a type. -/
structure ExpectedMember where
  name : String
  type : Option String
  optional : Option Bool
deriving DecidableEq, Repr, Inhabited

namespace Handle

/-- Whether a member's type says the same as `type`, where a type is asked for. -/
def memberHasType (parse : Parser) (member : Node) (type : Option String) : Bool :=
  type.all fun text =>
    member.memberType?.any fun actual => (ofNode .typeReference actual).agreesWithText parse text

/-- Whether a member carries a question mark just when it should, where that is asked for. -/
def memberIsOptional (member : Node) (optional : Option Bool) : Bool :=
  optional.all fun flag => member.hasToken "?" == flag

variable (h : Handle)

/-- Whether the declared type has a member as expected. -/
def hasMember (parse : Parser) (expected : ExpectedMember) : Bool :=
  (h.focus.bind (·.typeMember? expected.name)).any fun member =>
    memberHasType parse member expected.type && memberIsOptional member expected.optional

/-- Whether the declared type has all members as expected. -/
def hasMembers (parse : Parser) (expected : List ExpectedMember) : Bool :=
  expected.all (h.hasMember parse)

end Handle
end SnippetRubric
