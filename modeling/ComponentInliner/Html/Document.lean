import ComponentInliner.Html.Substitution
import ComponentInliner.Text.Classes

/-!
# Editing documents

Three changes to a document, all made on its text: markup is put in front of the last end tag of
the body, the script that loads the runtime is replaced by the runtime itself, and the scripts
that start components during development are removed.

A script is found by the end of its `src` attribute. The attribute may begin with anything but a
double quote; the longest beginning that lets the rest of the tag follow is taken.
-/

namespace ComponentInliner.Html

def bodyClose : String := "</body>"

/-- The text before and from the last occurrence of `needle`. -/
def splitLast? (needle : Text) : Text → Option (Text × Text)
  | [] => if needle.isEmpty then some ([], []) else none
  | point :: rest =>
      match splitLast? needle rest with
      | some (before, close) => some (point :: before, close)
      | none => if Text.startsWith (point :: rest) needle then some ([], point :: rest) else none

/-- Puts markup in front of the last end tag of the body, if there is one. -/
def insertBeforeBodyClose (document markup : Text) : Option Text :=
  (splitLast? bodyClose document).map fun (before, close) => before ++ markup ++ close

/--
Finds the end of an attribute that ends with `ending` and its closing quote, and reads what
follows by `finish`. The longest beginning of the attribute for which that succeeds is taken.
-/
def afterAttribute? {Result : Type} (ending : Text) (finish : Text → Option Result) :
    Text → Option Result
  | [] => (Text.dropPrefix? (ending ++ "\"") []).bind finish
  | point :: rest =>
      let later := if point = '"' then none else afterAttribute? ending finish rest
      later.or ((Text.dropPrefix? (ending ++ "\"") (point :: rest)).bind finish)

/-- What follows the source of a script tag: other attributes, then the end of the element. -/
def attributesAndEnd? (text : Text) : Option (Text × Text) :=
  let attributes := text.takeWhile fun point : CodePoint => point ≠ '>'
  (Text.dropPrefix? "></script>" (text.drop attributes.length)).map (attributes, ·)

/--
The attributes after the source of a script tag for a runtime file, and the text after the
element, if the text begins with such a tag.
-/
def runtimeTag? (filename text : Text) : Option (Text × Text) :=
  (Text.dropPrefix? "<script src=\"" text).bind (afterAttribute? filename attributesAndEnd?)

def inlineScript (attributes code : Text) : Text :=
  "<script" ++ attributes ++ ">\n" ++ code ++ "\n</script>"

/-- The substitution of the code of the runtime for the first script tag for its file. -/
def runtimeInlining (code filename : Text) : Substitution where
  tag? text := (runtimeTag? filename text).map fun (attributes, after) =>
    ⟨inlineScript attributes code, after⟩
  once := true

/-- Replaces the first script tag for a runtime file by the code of the runtime. -/
def inlineRuntime (code filename document : Text) : Text :=
  (runtimeInlining code filename).apply document

/-- The text after a script tag that starts components, and after the white space behind it. -/
def afterBootstrapTag? (filename text : Text) : Option Text :=
  (Text.dropPrefix? "<script type=\"module\" src=\"" text).bind
    (afterAttribute? filename fun rest =>
      (Text.dropPrefix? "></script>" rest).map fun after => after.dropWhile CodePoint.isBlank)

/-- The substitution of nothing for the script tags that start components. -/
def bootstrapRemoval (filename : Text) : Substitution where
  tag? text := (afterBootstrapTag? filename text).map fun after => ⟨[], after⟩
  once := false

/-- Removes the script tags that start components during development. -/
def removeBootstrap (filename document : Text) : Text :=
  (bootstrapRemoval filename).apply document

end ComponentInliner.Html
