import Gamebook.Cli

/-!
# Arguments

The words of a command line are the command, then options and the path of the
script in any order.

* `-j` or `--json` asks for JSON.
* `-v` or `--verbose` asks for the whole tree.
* `--lenient` lets branches go on across sections.
* `--marker` takes the marker from the next word or from behind an equals sign.

Short options may share a hyphen.  After a word of two hyphens, everything is a
path.
-/

namespace Gamebook.Cli

open Gamebook.Script

/-- A command line that can be run. -/
structure Arguments where
  /-- What to do. -/
  command : Command
  /-- How to do it. -/
  options : Options
  /-- The path of the script. -/
  path : String
  deriving DecidableEq

/-- Nothing asked for. -/
def Options.plain : Options := ⟨false, false, false, .standard⟩

/-- The command of this name. -/
def Command.ofName? : String → Option Command
  | "parse" => some .parse
  | "validate" => some .validate
  | "stats" => some .stats
  | _ => none

namespace Arguments

/-- The options with one more short option. -/
def short? (options : Options) : Char → Option Options
  | 'j' => some { options with json := true }
  | 'v' => some { options with verbose := true }
  | _ => none

/-- The options with one more option that stands for itself. -/
def flag? (options : Options) (word : String) : Option Options :=
  match word.toList with
  | '-' :: '-' :: _ =>
    if word = "--json" then some { options with json := true }
    else if word = "--verbose" then some { options with verbose := true }
    else if word = "--lenient" then some { options with lenient := true }
    else
      (("--marker=".toList).isPrefixOf? word.toList).map fun value =>
        { options with marker := .ofString (String.ofList value) }
  | '-' :: letter :: letters => (letter :: letters).foldlM short? options
  | _ => none

/-- The options and the path, where some may be known already. -/
def read? (options : Options) (path : Option String) : List String → Option (Options × String)
  | [] => path.map (options, ·)
  | "--" :: rest =>
    match path, rest with
    | none, [word] => some (options, word)
    | some path, [] => some (options, path)
    | _, _ => none
  | "--marker" :: value :: rest => read? { options with marker := .ofString value } path rest
  | word :: rest =>
    match flag? options word, path with
    | some options, path => read? options path rest
    | none, none =>
      if word.toList.head? = some '-' && word ≠ "-" then none
      else read? options (some word) rest
    | none, some _ => none

/-- The command line that the words stand for. -/
def ofWords? : List String → Option Arguments
  | [] => none
  | command :: rest => do
    let command ← Command.ofName? command
    let (options, path) ← read? .plain none rest
    return ⟨command, options, path⟩

/-- What a command line looks like. -/
def usage : String :=
  "Usage: gamebook <parse|validate|stats> [-j|--json] [-v|--verbose] [--lenient] " ++
    "[--marker <MARKER>] <FILE>"

example :
    ofWords? ["stats", "-jv", "--marker=#", "a.txt"] =
      some ⟨.stats, ⟨true, true, false, .ofString "#"⟩, "a.txt"⟩ := by decide +kernel
example : ofWords? ["parse", "--loud", "a.txt"] = none := by decide +kernel

end Arguments

end Gamebook.Cli
