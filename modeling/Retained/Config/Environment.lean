import Std.Data.ExtTreeMap

/-!
# Environments

A program is started with a block of entries, `NAME=VALUE`. An environment keeps the value of each
name; a variable is looked up as in the block, by the entry that begins with the name asked for
and an equals sign. `lookup?` says what follows there.
-/

namespace Retained

abbrev Environment := Std.ExtTreeMap String String

namespace Environment

/--
Divides an entry at its first equals sign, one that stands at the very beginning apart: a name has
at least one character. What cannot be divided sets no variable.
-/
def divide? : List Char → Option (List Char × List Char)
  | [] => none
  | c :: cs =>
    match cs.dropWhile (· ≠ '=') with
    | [] => none
    | _ :: value => some (c :: cs.takeWhile (· ≠ '='), value)

/-- The variables of a block of entries. Of two entries for one name the first counts. -/
def ofEntries (entries : List String) : Environment :=
  entries.foldl (fun env entry =>
    match divide? entry.toList with
    | none => env
    | some (name, value) => env.insertIfNew (.ofList name) (.ofList value)) ∅

/--
What follows the name and an equals sign in an entry. A name that holds an equals sign itself
reads on into the value: with `A=b=c`, what is asked for as `A` is `b=c` and as `A=b` it is `c`.
-/
def lookup? (env : Environment) (name : List Char) : Option (List Char) :=
  match divide? name with
  | none => env[String.ofList name]?.map String.toList
  | some (key, rest) => do
    let value ← env[String.ofList key]?
    let ahead := rest ++ ['=']
    if ahead.isPrefixOf value.toList then some (value.toList.drop ahead.length) else none

end Environment

end Retained
