import NodeGateway.Abi.Codec

/-!
# What Readers Say

A message about data that cannot be read ends with what the reader of the data says about them. For
the readers of this library that is told by the library. Contract data, replies to remote calls, the
queries and bodies of callers and settings files are read by others as well, who word it their own
way; so what they say is a parameter of whatever reports it.

The parameter is a class, so that it goes along with the definitions between a reader and a report
without being named by each of them.
-/

namespace NodeGateway

/-- What readers **say** about data that they cannot read. -/
class Wording where
  /-- About returned data that do not hold values of some types. -/
  returned : AbiTypes → Bytes → String
  /-- About the body that answers a remote method. -/
  reply : (method : String) → Bytes → String
  /-- About the query of a request. -/
  query : List Char → String
  /-- About the body of a request. -/
  body : String → String
  /-- About the text of a settings file. -/
  settings : String → String

/-- Readers that say **nothing**. -/
abbrev Wording.silent : Wording where
  returned _ _ := ""
  reply _ _ := ""
  query _ := ""
  body _ := ""
  settings _ := ""

end NodeGateway
