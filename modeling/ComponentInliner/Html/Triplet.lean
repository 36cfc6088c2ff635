import ComponentInliner.Component.Record
import ComponentInliner.Html.Escape
import ComponentInliner.Html.StyleSheet

/-!
# Component triplets

A component is written into a document as a style element, a template element and a script
element that carry its name, below a comment with the name. Styles may be written compactly;
everything else is written as it is.
-/

namespace ComponentInliner.Html

def nameAttribute : String := "data-component"

def scriptType : String := "text/boredom"

def scriptText (logicSource : Text) : Text :=
  "export default " ++ logicSource ++ ";"

/-- An element of a triplet: its start tag, its content on a line of its own, and its end tag. -/
def element (tag : String) (attributes : Text) (content : Text) : Text :=
  "  <" ++ Text.ofString tag ++ " " ++ attributes ++ ">\n    " ++ content ++ "\n  </" ++
    Text.ofString tag ++ ">"

def renderTriplet (compactStyles : Bool) (record : ComponentRecord) : Text :=
  let name := escape record.name
  let named := nameAttribute ++ "=\"" ++ name ++ "\""
  let style := if compactStyles then StyleSheet.compact record.style else record.style
  let typed := Text.ofString ("type=\"" ++ scriptType ++ "\" ")
  "\n  <!-- Component: " ++ name ++ " -->\n" ++ element "style" named style ++ "\n  \n" ++
    element "template" named record.template ++ "\n  \n" ++
    element "script" (typed ++ named) (scriptText record.logicSource)

/-- The triplets of components, one after the other. -/
def renderTriplets (compactStyles : Bool) (records : List ComponentRecord) : Text :=
  Text.joinWith "\n" (records.map (renderTriplet compactStyles))

end ComponentInliner.Html
