import ComponentInliner.Module.Parse

/-!
# About the program

Its version, its author, and whether its parser works. The report has a line for each of these;
for the world around the program it has labels only, since nothing is known about it here.
-/

namespace ComponentInliner.About

def version : String := "0.1.0"

def author : String := "boreDOM Team"

def parses : Bool :=
  match Module.parse "export const ok = true;" with
  | .ok _ => true
  | .error _ => false

def report : List String :=
  ["boreDOM Component Compiler", String.ofList (List.replicate 40 '='), "",
    "Version: " ++ version, "Author: " ++ author,
    "JavaScript Grammar Loaded: " ++ (if parses then "True" else "False"), "",
    "Python Version:", "Platform:", "Architecture:", "", "Dependencies:", "  tree-sitter:",
    "  tree-sitter-javascript:", "  Jinja2:", "  PyYAML:", ""]

end ComponentInliner.About
