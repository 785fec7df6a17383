import CertPress.Markup.Parser
import CertPress.Markup.Scope

/-!
# Rendering

The text of a template in a scope.  A value that is not there shows nothing, a
conditional block shows one of its branches, and a repeated block shows its body
once for each item of an array, with the item as the whole scope.
-/

namespace CertPress.Markup

open Json (Value)

namespace Node

mutual

/-- The text of a node in a scope. -/
def render (scope : Value) : Node → String
  | .text content => content
  | .value path =>
      match lookup scope path with
      | some found => textOf found
      | none => ""
  | .cond path kept otherwise =>
      if (lookup scope path).any holds then renderAll scope kept
      else renderAll scope otherwise
  | .each path body =>
      match lookup scope path with
      | some (.array items) => String.join (items.map fun item => renderAll item body)
      | _ => ""

/-- The text of a list of nodes in a scope. -/
def renderAll (scope : Value) : List Node → String
  | [] => ""
  | node :: rest => node.render scope ++ renderAll scope rest

end

theorem renderAll_append (scope : Value) (left right : List Node) :
    renderAll scope (left ++ right) = renderAll scope left ++ renderAll scope right := by
  induction left with
  | nil => simp [renderAll]
  | cons node rest hypothesis =>
      rw [List.cons_append, renderAll, renderAll, hypothesis, String.append_assoc]

end Node

/-- The text of a template in a scope. -/
def render (source : String) (scope : Value) : Except TemplateFault String :=
  (parse source).map (Node.renderAll scope)

end CertPress.Markup
