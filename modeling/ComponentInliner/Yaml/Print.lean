import ComponentInliner.Config.Setting
import ComponentInliner.Yaml.Binary
import ComponentInliner.Yaml.ScalarStyle

/-!
# Writing settings as YAML

Lists and mappings are written as blocks, two columns deeper than what holds them; a list in a
mapping stands at the column of its key. Those without entries are written between brackets. Pairs
are written as lists; sets and octets have a tag. The text is ASCII.
-/

namespace ComponentInliner.Yaml

/-- A double as it is written: with a point, in lower case. -/
def numberText (double : Float) : Text :=
  if double.isNaN then ".nan"
  else if double.isInf then (if double < 0 then "-.inf" else ".inf" : String)
  else
    let shown := Setting.showDouble double
    let point : CodePoint := '.'
    if point ∈ shown then shown else Text.replacePoint 'e' ".0e" shown

/-- A setting that is no collection, as the kind of scalar it is and its text. -/
def scalar? : Setting → Option (ScalarKind × Text)
  | .null => some (.nothing, "null")
  | .boolean flag => some (.flag, (if flag then "true" else "false" : String))
  | .integer whole => some (.integer, Text.ofInt whole)
  | .number double => some (.number, numberText double)
  | .text content => some (.text, content)
  | .other .date form | .other .dateAndTime form => some (.moment, form)
  | .list _ | .mapping _ | .other _ _ => none

/-- Writes a scalar. Only texts may need quotes. -/
def writeScalar (indent : Nat) (isKey : Bool) (kind : ScalarKind) (text : Text) (pen : Pen) : Pen :=
  let style := if kind = .text then ScalarStyle.ofText isKey text else .plain
  style.write indent (!isKey) text pen

/-- How many columns the tag of a scalar counts for when its key is measured. -/
def tagWidth : ScalarKind → Nat
  | .nothing | .flag => 6
  | .number => 7
  | .moment => 11
  | _ => 5

def isSimpleKey (kind : ScalarKind) (text : Text) : Bool :=
  tagWidth kind + text.length < 128 && !text.isEmpty && !isMultiline text

/-- The column of what is inside of a node in a column. -/
def deeper : Option Nat → Nat
  | none => 0
  | some indent => indent + 2

/-- Writes octets as lines of digits at a column. -/
def writeOctets (indent : Nat) (octets : List Nat) (pen : Pen) : Pen :=
  let pen := pen.mark "!!binary" true false
  if octets.isEmpty then
    pen.mark "''" true false
  else
    let write (pen : Pen) (line : Text) : Pen := ((pen.indentTo indent).put line).endLine
    (binaryLines octets).foldl write (pen.mark "|" true false).endLine

/-- Writes the key of a mapping at a column, up to its colon. Octets stand on lines of their own. -/
def writeKey (indent : Nat) (key : Setting) (pen : Pen) : Pen :=
  let pen := pen.indentTo indent
  match key with
  | .other (.octets octets) _ =>
      let pen := writeOctets (indent + 2) octets (pen.mark "?" true true)
      (pen.indentTo indent).mark ":" true true
  | _ =>
      let (kind, text) := (scalar? key).getD (.text, key.shown)
      if isSimpleKey kind text then
        (writeScalar (indent + 2) true kind text pen).mark ":" false false
      else
        let pen := writeScalar (indent + 2) false kind text (pen.mark "?" true true)
        (pen.indentTo indent).mark ":" true true

mutual

/-- Writes a setting that is held by a node in a column, if any. -/
def write (indent? : Option Nat) (isMember : Bool) : Setting → Pen → Pen
  | .list entries, pen =>
      if entries.isEmpty then
        pen.mark "[]" true false
      else
        let staysAtKey := isMember && !pen.isFresh
        writeEntries (if staysAtKey then indent?.getD 0 else deeper indent?) entries pen
  | .mapping entries, pen =>
      if entries.isEmpty then pen.mark "\x7b\x7d" true false
      else writeMembers (deeper indent?) entries pen
  | .other (.pair first second) _, pen =>
      let staysAtKey := isMember && !pen.isFresh
      let indent := if staysAtKey then indent?.getD 0 else deeper indent?
      let pen := write (some indent) false first ((pen.indentTo indent).mark "-" true true)
      write (some indent) false second ((pen.indentTo indent).mark "-" true true)
  | .other (.set members) _, pen =>
      let pen := pen.mark "!!set" true false
      if members.isEmpty then pen.mark "\x7b\x7d" true false
      else
        members.foldl (fun pen member =>
          writeScalar (deeper indent? + 2) false .nothing "null"
            (writeKey (deeper indent?) member pen)) pen
  | .other (.octets octets) _, pen => writeOctets (indent?.getD 0 + 2) octets pen
  | scalar, pen =>
      let (kind, text) := (scalar? scalar).getD (.nothing, [])
      writeScalar (indent?.getD 0 + 2) false kind text pen

def writeEntries (indent : Nat) : List Setting → Pen → Pen
  | [], pen => pen
  | entry :: entries, pen =>
      writeEntries indent entries
        (write (some indent) false entry ((pen.indentTo indent).mark "-" true true))

def writeMembers (indent : Nat) : List (Setting × Setting) → Pen → Pen
  | [], pen => pen
  | (key, member) :: members, pen =>
      writeMembers indent members (write (some indent) true member (writeKey indent key pen))

end

def print (setting : Setting) : Text :=
  ((write none false setting .start).indentTo 0).text

end ComponentInliner.Yaml
