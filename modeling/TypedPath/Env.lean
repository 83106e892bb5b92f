import TypedPath.Config
import TypedPath.Method.Registry
import TypedPath.Value.Content

/-! The environment of expressions. -/

namespace TypedPath

/-- What typing and evaluation rest on besides the expression: which classes convert, the methods
and the configuration, and the orders in which texts list the fields of what is read from a
content. The maps read from one content are not those read from another, even where they have the
same fields, so each content has an order of its own. It keeps that order throughout an evaluation:
that the maps of a document may be ordered anew at each reading is not considered. -/
structure Env where
  converts : ValueClass → ValueClass → Bool
  methods : Registry
  config : Config
  listing : Content → Listing

def Env.standard : Env :=
  ⟨ValueClass.convertsTo, Registry.empty, Config.standard, fun _ => .asGiven⟩

def Env.literalType (env : Env) (literal : Literal) : Ty := .scalar (env.config.classOf literal)

end TypedPath
