import DocSelector.Text.Count

/-!
# Options for suggestions

A caller may say how many suggestions to show and how far they may be from the name. Both are given
by flags, that is by arguments with an equals sign and a count behind it; a later flag replaces an
earlier one.

## Main definitions

* `SuggestOptions`: the two settings.
* `SuggestOptions.withArgument?`: the options after one argument, if the argument is a flag.
* `SuggestOptions.ofArguments`: the options and the arguments that are no flags.
-/

namespace DocSelector

/-- The settings for a list of suggestions. -/
structure SuggestOptions where
  maxResults : Nat := 3
  /-- The greatest distance from the name; without it, the default for the length of the name. -/
  threshold? : Option Nat := none
deriving DecidableEq, Repr

namespace SuggestOptions

inductive Flag where
  | maxResults
  | threshold
deriving DecidableEq, Repr

namespace Flag

def all : List Flag := [maxResults, threshold]

/-- The flag as it is written, without the equals sign. -/
def text : Flag → String
  | maxResults => "--max"
  | threshold => "--threshold"

instance : ToString Flag := ⟨text⟩

/-- What stands behind the equals sign if `argument` is this flag. -/
def value? (flag : Flag) (argument : String) : Option String :=
  ((flag.text ++ "=").toList.isPrefixOf? argument.toList).map String.ofList

end Flag

/-- A flag whose value is not a count. -/
structure BadFlag where
  flag : Flag
  value : String
deriving DecidableEq, Repr

instance : ToString BadFlag where
  toString bad := s!"error: {bad.flag} expects a non-negative integer, got '{bad.value}'"

def set (options : SuggestOptions) (count : Nat) : Flag → SuggestOptions
  | .maxResults => { options with maxResults := count }
  | .threshold => { options with threshold? := some count }

/-- The flag that `argument` is, with its value. -/
def flag? (argument : String) : Option (Flag × String) :=
  Flag.all.findSome? fun flag => (flag.value? argument).map fun value => (flag, value)

/-- The options after `argument`, or nothing if the argument is no flag. -/
def withArgument? (options : SuggestOptions) (argument : String) :
    Except BadFlag (Option SuggestOptions) :=
  match flag? argument with
  | none => .ok none
  | some (flag, value) =>
    match Text.parseCount? value.toList with
    | none => .error { flag, value }
    | some count => .ok (some (options.set count flag))

/-- The options after all the arguments, and the arguments that are no flags. The first bad flag
decides the error. -/
def ofArguments (options : SuggestOptions) :
    List String → Except BadFlag (SuggestOptions × List String)
  | [] => .ok (options, [])
  | argument :: arguments =>
    match options.withArgument? argument with
    | .error bad => .error bad
    | .ok (some options) => options.ofArguments arguments
    | .ok none =>
      (options.ofArguments arguments).map fun (options, others) => (options, argument :: others)

end SuggestOptions

end DocSelector
